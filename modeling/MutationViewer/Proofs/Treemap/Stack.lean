import MutationViewer.Proofs.Treemap.Address

/-!
# The folders that were left

The treemap remembers the folders that it has left and the names of those that it has
entered.  These stay in line whatever is done: each folder on the way is the child of the
one before that the name between them stands for.  Nothing is asked of the format or of
the tree.  Addresses may be misread and steps may fail for want of a separator, but a
trail is only ever extended by a child, cut back, or begun anew at the root.
-/

namespace MutationViewer

/-- The folders on the way from the root, the one on show last. -/
def Trail.folders (trail : Trail) : List Tree :=
  trail.stack ++ [trail.current]

/-- As many folders were left as names were entered; the root comes first of the folders
on the way; and each name leads from one of them to the next, which is a folder. -/
structure Trail.InLine (root : Tree) (trail : Trail) : Prop where
  length_eq : trail.stack.length = trail.path.length
  first : trail.folders[0]? = some root
  next : forall (index : Nat) name, trail.path[index]? = some name ->
    ∃ parent child, trail.folders[index]? = some parent ∧
      trail.folders[index + 1]? = some child ∧
      parent.child? name = some child ∧ child.isFolder = true

section

variable {root current : Tree} {stack : List Tree} {path : List String}

theorem Leads.getElem?_zero (leads : Leads root stack path current) :
    (stack ++ [current])[0]? = some root := by
  induction leads with
  | here => rfl
  | entered before found ih =>
      rw [List.getElem?_append_left (by simp)]
      exact ih

/-- Each name leads from the folder beside it to the one that comes next. -/
theorem Leads.exists_getElem?_succ (leads : Leads root stack path current) {index : Nat}
    {name : String} (entered : path[index]? = some name) :
    ∃ parent child, (stack ++ [current])[index]? = some parent ∧
      (stack ++ [current])[index + 1]? = some child ∧ parent.folder? name = some child := by
  induction leads with
  | here => cases entered
  | @entered current child stack path last before found ih =>
      have lengths := before.length_eq
      have inside := (List.getElem?_eq_some_iff.mp entered).1
      rw [List.length_append, List.length_singleton] at inside
      rcases Nat.lt_or_eq_of_le (Nat.le_of_lt_succ inside) with earlier | atEnd
      · rw [List.getElem?_append_left earlier] at entered
        rcases ih entered with ⟨parent, next, parentAt, nextAt, leadsOn⟩
        refine ⟨parent, next, ?_, ?_, leadsOn⟩
        · rw [List.getElem?_append_left (by simp; omega)]
          exact parentAt
        · rw [List.getElem?_append_left (by simp; omega)]
          exact nextAt
      · subst atEnd
        rw [List.getElem?_concat_length, Option.some.injEq] at entered
        subst entered
        refine ⟨current, child, ?_, ?_, found⟩
        · rw [← lengths, List.getElem?_append_left (by simp), List.getElem?_concat_length]
        · rw [← lengths]
          simp

end

theorem Trail.Sound.inLine {trail : Trail} (sound : trail.Sound) :
    trail.InLine trail.root where
  length_eq := Leads.length_eq sound
  first := Leads.getElem?_zero sound
  next index name entered := by
    rcases Leads.exists_getElem?_succ sound entered with
      ⟨parent, child, parentAt, childAt, found⟩
    rcases Option.filter_eq_some_iff.mp found with ⟨named, folder⟩
    exact ⟨parent, child, parentAt, childAt, named, folder⟩

namespace TreemapView

variable {settings : TreemapSettings} {root : Tree} {view : TreemapView}

/-! ## No step leaves the tree -/

theorem Placed.of_goes (placed : Placed settings root view) {after : TreemapView}
    (goes : view.Goes after) : Placed settings root after := by
  cases goes with
  | stays alike => exact placed.congr alike.settings_eq alike.trail_eq
  | moves rootEq sound =>
      have visited := placed.visit rootEq (sound placed.sound)
      rw [TreemapView.move, frame_andThen_ok]
      unfold TreemapView.publish
      split
      · exact visited.placed_hear _
      · exact visited
  | hears history => exact placed.placed_hear history

theorem Placed.placed_step (placed : Placed settings root view) (step : Step) :
    Placed settings root (view.step step).view := by
  cases step with
  | start =>
      change Placed settings root view.start.view
      cases view.starts_start with
      | stays alike => exact placed.congr alike.settings_eq alike.trail_eq
      | rebuilds history linked alike =>
          exact (placed.rebuild (some history.fragment)).congr alike.settings_eq alike.trail_eq
  | enter name => exact placed.of_goes (view.goes_enter name)
  | leave => exact placed.of_goes view.goes_leave
  | rebuild raw =>
      rw [TreemapView.step, frame_andThen_ok]
      exact placed.rebuild raw
  | bar use => exact placed.of_goes (view.goes_useBar use)

theorem Placed.placed_run (placed : Placed settings root view) (steps : List Step) :
    Placed settings root (view.run steps) := by
  induction steps generalizing view with
  | nil => exact placed
  | cons step steps ih => exact ih (placed.placed_step step)

/-- Take any tree, be its root a file, any settings, a bar or none, and any run of steps,
whether they fail or not: the folders that were left are in line with the names that were
entered, from the root to the folder on show. -/
theorem folders_in_line_along_runs (settings : TreemapSettings) (bar : Option History)
    (root : Tree) (steps : List Step) :
    ((ofTree settings bar root).run steps).trail.InLine root := by
  have placed := (placed_ofTree settings bar root).placed_run steps
  have inLine := placed.sound.inLine
  rwa [placed.root_eq] at inLine

end TreemapView
end MutationViewer
