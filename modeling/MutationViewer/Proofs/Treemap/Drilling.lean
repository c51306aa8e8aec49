import MutationViewer.Proofs.History.Fragment
import MutationViewer.Proofs.Tree.Separators
import MutationViewer.Proofs.Treemap.Stack
import MutationViewer.Tree.OfJson

/-!
# Entering a folder and leaving it again

When a folder is entered its address is written to the bar, and the bar calls the view back
with the kept form of the address.  If that is another text, the view takes its own write for
an edit by the reader and rebuilds its trail from it.  So a folder stays on show after it has
been entered exactly if its address is in its kept form, and likewise the folder before it
after the new one has been left.  Addresses of the standard format begin with an ordinary
character, so what decides is whether the name of the folder ends with a blank.
-/

namespace MutationViewer

namespace AddressFormat

/-- An address of the standard format is in its kept form exactly if the last name does not
end with a blank. -/
theorem normalize_standard_write_iff (path : List String) :
    Fragment.normalize (standard.write path) = standard.write path ↔
      ∀ name ∈ path.getLast?, ¬ Text.EndsBlank name := by
  have marker : standard.rootMarker.toList = ['r', 'o', 'o', 't'] := by decide
  rw [normalize_write_eq_self_iff marker (by decide)]
  cases path using List.reverseRecOn with
  | nil =>
      rw [write_nil]
      decide
  | append_singleton before name =>
      rw [write_concat, List.getLast?_concat]
      by_cases unnamed : name = ""
      · subst unnamed
        rw [String.append_empty, Text.endsBlank_append (by decide)]
        decide
      · simp [Text.endsBlank_append unnamed]

theorem length_write_le_concat (format : AddressFormat) (path : List String) (name : String) :
    (format.write path).length ≤ (format.write (path ++ [name])).length := by
  rw [write_concat, String.length_append, String.length_append]
  omega

end AddressFormat

namespace TreemapView

variable {settings : TreemapSettings} {root : Tree} {view : TreemapView}

theorem exists_bar_publish {history : History} (linked : view.bar = some history) :
    ∃ shown, view.publish.view.bar = some shown ∧
      shown.fragment = Fragment.normalize view.address := by
  unfold publish
  rw [linked, Option.bind_some]
  cases wrote : history.write? view.address with
  | none => exact ⟨history, linked, ((History.write?_eq_none_iff _ _).mp wrote).symm⟩
  | some written =>
      dsimp only
      exact ⟨written, (view.frame_hear written).2.1, History.fragment_of_write? wrote⟩

theorem exists_bar_of_goes (linked : view.bar.isSome) {after : TreemapView}
    (goes : view.Goes after) : after.bar.isSome := by
  rcases Option.isSome_iff_exists.mp linked with ⟨history, found⟩
  cases goes with
  | stays alike => rwa [alike.bar_eq]
  | @moves trail rootEq sound =>
      have visited : (view.visit trail).bar = some history := found
      rcases exists_bar_publish visited with ⟨shown, barEq, -⟩
      rw [TreemapView.move, frame_andThen_ok, barEq]
      rfl
  | hears heard => rw [(view.frame_hear heard).2.1]; rfl

theorem exists_bar_step (linked : view.bar.isSome) (step : Step) :
    (view.step step).view.bar.isSome := by
  cases step with
  | start =>
      change view.start.view.bar.isSome
      cases view.starts_start with
      | stays alike => rwa [alike.bar_eq]
      | rebuilds history found alike =>
          rwa [alike.bar_eq, (view.frame_rebuild (some history.fragment)).2]
  | enter name => exact exists_bar_of_goes linked (view.goes_enter name)
  | leave => exact exists_bar_of_goes linked view.goes_leave
  | rebuild raw =>
      rw [TreemapView.step, frame_andThen_ok, (view.frame_rebuild raw).2]
      exact linked
  | bar use => exact exists_bar_of_goes linked (view.goes_useBar use)

theorem exists_bar_run (linked : view.bar.isSome) (steps : List Step) :
    (view.run steps).bar.isSome := by
  induction steps generalizing view with
  | nil => exact linked
  | cons step steps ih => exact ih (exists_bar_step linked step)

theorem rebuild_of_same {raw : Option String} (same : Fragment.ofOption raw = view.address) :
    view.rebuild raw = ⟨view, .ok false⟩ := by
  unfold rebuild
  dsimp only
  rw [if_pos same]

/-- The view takes its own write for what it is if the address is in its kept form: no more than
the bar and the record of what was done change, and there is no fault. -/
theorem publish_of_kept (kept : Fragment.normalize view.address = view.address) :
    ∃ bar effects, view.publish = ⟨{ view with bar := bar, effects := effects }, .ok ()⟩ := by
  unfold publish
  cases wrote : view.bar.bind fun history => history.write? view.address with
  | none => exact ⟨view.bar, view.effects, rfl⟩
  | some written =>
      rcases Option.bind_eq_some_iff.mp wrote with ⟨history, -, wrote⟩
      have shown : Fragment.ofOption (some written.fragment) =
          ({ view with bar := some written } : TreemapView).address := by
        rw [Fragment.ofOption_some, History.fragment_of_write? wrote, kept, kept]
        rfl
      refine ⟨some written, view.effects ++ [.address written.fragment], ?_⟩
      dsimp only
      rw [hear, rebuild_of_same shown]
      rfl

theorem trail_publish_of_kept (kept : Fragment.normalize view.address = view.address) :
    view.publish.view.trail = view.trail := by
  rcases publish_of_kept kept with ⟨bar, effects, published⟩
  rw [published]

/-- Otherwise another path is on show afterwards, unless the bar has shown the kept form
already. -/
theorem Placed.path_publish_ne (placed : Placed settings root view)
    (marked : Fragment.normalize settings.format.rootMarker = settings.format.rootMarker)
    {history : History} (linked : view.bar = some history)
    (unshown : Fragment.normalize view.address ≠ history.fragment)
    (changed : Fragment.normalize view.address ≠ view.address) :
    view.publish.view.trail.path ≠ view.trail.path := by
  have settingsEq := placed.settings_eq
  subst settingsEq
  have shorter := Fragment.length_normalize_lt changed
  have twice := Fragment.length_normalize_le (Fragment.normalize view.address)
  unfold TreemapView.publish
  rw [linked, Option.bind_some]
  cases wrote : history.write? view.address with
  | none => exact absurd ((History.write?_eq_none_iff _ _).mp wrote) unshown
  | some written =>
      have shown : written.fragment = Fragment.normalize view.address :=
        History.fragment_of_write? wrote
      dsimp only
      rw [(view.frame_hear written).2.2]
      cases ({ view with bar := some written } : TreemapView).rebuilt (some written.fragment) with
      | kept same unchanged =>
          have lengths := congrArg String.length same
          rw [Fragment.ofOption_some, shown] at lengths
          change _ = view.address.length at lengths
          omega
      | lost trailEq unread =>
          rw [trailEq]
          intro atRoot
          apply changed
          rw [address, Trail.address, ← atRoot]
          exact AddressFormat.write_nil.symm ▸ marked
      | found path trailEq read =>
          rw [trailEq, (Trail.follow_located read).2.1]
          intro same
          have own : view.settings.format.write path = view.address := by
            rw [address, Trail.address, ← same]
          have lengths := congrArg String.length
            (own.symm.trans (Tree.locateNormal_sound read).2)
          rw [Fragment.ofOption_some, Fragment.ofOption_some, shown] at lengths
          have thrice := Fragment.length_normalize_le
            (Fragment.normalize (Fragment.normalize view.address))
          omega

/-! ## Entering and leaving -/

/-- The child is on show and is remembered as entered from the folder before, and the bar shows
its address. -/
structure Sticks (view : TreemapView) (name : String) (child : Tree) (after : TreemapView) :
    Prop where
  current_eq : after.trail.current = child
  path_eq : after.trail.path = view.trail.path ++ [name]
  stack_eq : after.trail.stack = view.trail.stack ++ [view.trail.current]
  shown : ∃ history, after.bar = some history ∧ history.fragment = after.address

/-- The same folder is on show again, reached by the same folders. -/
structure Restores (view after : TreemapView) : Prop where
  current_eq : after.trail.current = view.trail.current
  path_eq : after.trail.path = view.trail.path
  stack_eq : after.trail.stack = view.trail.stack

theorem enter_of_folder {name : String} {child : Tree}
    (found : view.trail.current.child? name = some child) (folder : child.isFolder = true) :
    view.enter name = view.move (view.trail.enter name child) := by
  rw [enter, found]
  exact if_pos folder

theorem address_visit_enter (view : TreemapView) (name : String) (child : Tree) :
    (view.visit (view.trail.enter name child)).address =
      view.settings.format.write (view.trail.path ++ [name]) :=
  rfl

section

variable {history : History} (linked : view.bar = some history) {name : String} {child : Tree}
  (found : view.trail.current.child? name = some child) (folder : child.isFolder = true)

include linked found folder

/-- Where the address of the child is in its kept form, entering it extends the trail. -/
theorem enter_of_kept (kept : Fragment.normalize (view.settings.format.write
    (view.trail.path ++ [name])) = view.settings.format.write (view.trail.path ++ [name])) :
    (view.enter name).view.trail = view.trail.enter name child ∧
      ∃ shown, (view.enter name).view.bar = some shown ∧
        shown.fragment = view.settings.format.write (view.trail.path ++ [name]) := by
  have visited : (view.visit (view.trail.enter name child)).bar = some history := linked
  rw [← address_visit_enter view name child] at kept ⊢
  rw [enter_of_folder found folder, move, frame_andThen_ok]
  rcases exists_bar_publish visited with ⟨shown, barEq, fragmentEq⟩
  exact ⟨trail_publish_of_kept kept, shown, barEq, fragmentEq.trans kept⟩

/-- A child that is entered stays on show exactly if its address is in its kept form. -/
theorem Placed.sticks_iff (placed : Placed settings root view) :
    view.Sticks name child (view.enter name).view ↔
      Fragment.normalize (settings.format.write (view.trail.path ++ [name])) =
        settings.format.write (view.trail.path ++ [name]) := by
  have settingsEq := placed.settings_eq
  subst settingsEq
  have settled : (view.enter name).view.settings = view.settings :=
    (placed.of_goes (view.goes_enter name)).settings_eq
  constructor
  · intro sticks
    have visited : (view.visit (view.trail.enter name child)).bar = some history := linked
    rcases exists_bar_publish visited with ⟨shown, barEq, fragmentEq⟩
    rcases sticks.shown with ⟨other, otherEq, own⟩
    rw [address, Trail.address, sticks.path_eq, settled] at own
    rw [enter_of_folder found folder, TreemapView.move, frame_andThen_ok, barEq,
      Option.some.injEq] at otherEq
    rw [← address_visit_enter view name child, ← fragmentEq, otherEq, own,
      address_visit_enter view name child]
  · intro kept
    rcases enter_of_kept linked found folder kept with ⟨trailEq, shown, barEq, fragmentEq⟩
    refine ⟨?_, ?_, ?_, shown, barEq, ?_⟩
    · rw [trailEq, Trail.enter]
    · rw [trailEq, Trail.enter]
    · rw [trailEq, Trail.enter]
    · rw [address, Trail.address, settled, trailEq, fragmentEq, Trail.enter]

/-- If it does, leaving it restores what was on show before exactly if the address of that
folder is in its kept form, too. -/
theorem Placed.restores_iff (placed : Placed settings root view)
    (marked : Fragment.normalize settings.format.rootMarker = settings.format.rootMarker)
    (kept : Fragment.normalize (settings.format.write (view.trail.path ++ [name])) =
      settings.format.write (view.trail.path ++ [name])) :
    view.Restores (view.enter name).view.leave.view ↔
      Fragment.normalize (settings.format.write view.trail.path) =
        settings.format.write view.trail.path := by
  have settingsEq := placed.settings_eq
  subst settingsEq
  have entered := placed.of_goes (view.goes_enter name)
  rcases enter_of_kept linked found folder kept with ⟨trailEq, shown, barEq, fragmentEq⟩
  generalize (view.enter name).view = inside at entered trailEq barEq ⊢
  have left : inside.leave.view = (inside.visit view.trail).publish.view := by
    rw [leave, trailEq, Trail.leave?_enter]
    exact frame_andThen_ok _ _
  have visited : Placed view.settings root (inside.visit view.trail) :=
    entered.visit (by rw [trailEq]; rfl) placed.sound
  have addressEq : (inside.visit view.trail).address =
      view.settings.format.write view.trail.path := by
    rw [address, Trail.address, visited.settings_eq]
    rfl
  rw [left]
  constructor
  · intro restores
    by_cases keptBefore : Fragment.normalize (view.settings.format.write view.trail.path) =
        view.settings.format.write view.trail.path
    · exact keptBefore
    · refine absurd restores.path_eq (visited.path_publish_ne marked barEq ?_ ?_)
      · rw [addressEq, fragmentEq]
        intro same
        apply keptBefore
        apply Fragment.normalize_eq_self_of_length_le
        rw [same]
        exact view.settings.format.length_write_le_concat view.trail.path name
      · rwa [addressEq]
  · intro keptBefore
    rw [← addressEq] at keptBefore
    have restored := trail_publish_of_kept keptBefore
    exact ⟨by rw [restored]; rfl, by rw [restored]; rfl, by rw [restored]; rfl⟩

end

/-- Take any tree, the standard settings, any bar, and any run of steps.  If the name stands for
a folder inside the one on show, entering it and leaving it again do not fail.  The folder that
is entered stays on show, with its address in the bar, exactly if its name does not end with a
blank; and leaving it then restores what was on show before exactly if the name of that folder
does not end with a blank either. -/
theorem entered_folder_stays_iff (root : Tree) (bar : History) (steps : List Step) {name : String}
    {child : Tree}
    (found : ((ofTree .standard (some bar) root).run steps).trail.current.child? name = some child)
    (folder : child.isFolder = true) :
    ∃ view, (ofTree .standard (some bar) root).run steps = view ∧
      (view.step (.enter name)).Answers ∧ ((view.step (.enter name)).view.step .leave).Answers ∧
      (view.Sticks name child (view.step (.enter name)).view ↔ ¬ Text.EndsBlank name) ∧
      (view.Sticks name child (view.step (.enter name)).view ∧
          view.Restores ((view.step (.enter name)).view.step .leave).view ↔
        ¬ Text.EndsBlank name ∧ ∀ last ∈ view.trail.path.getLast?, ¬ Text.EndsBlank last) := by
  have opened : Placed .standard root (ofTree .standard (some bar) root) :=
    placed_ofTree .standard (some bar) root
  have placed := opened.placed_run steps
  rcases Option.isSome_iff_exists.mp (exists_bar_run (rfl : (ofTree .standard (some bar)
    root).bar.isSome = true) steps) with ⟨history, linked⟩
  generalize (ofTree .standard (some bar) root).run steps = view at found placed linked
  have separated : view.settings.format.separator ≠ "" := by
    rw [placed.settings_eq]
    decide
  have inside := placed.placed_step (.enter name)
  have separatedInside : (view.step (.enter name)).view.settings.format.separator ≠ "" := by
    rw [inside.settings_eq]
    decide
  have sticks := placed.sticks_iff linked found folder
  have restores := placed.restores_iff linked found folder (by decide +kernel)
  have plain : Fragment.normalize (TreemapSettings.standard.format.write
      (view.trail.path ++ [name])) = TreemapSettings.standard.format.write
        (view.trail.path ++ [name]) ↔ ¬ Text.EndsBlank name :=
    (AddressFormat.normalize_standard_write_iff _).trans (by simp)
  refine ⟨view, rfl, answers_step separated _, answers_step separatedInside _, sticks.trans plain,
    ?_⟩
  constructor
  · rintro ⟨stuck, restored⟩
    have kept := sticks.mp stuck
    exact ⟨plain.mp kept,
      (AddressFormat.normalize_standard_write_iff _).mp ((restores kept).mp restored)⟩
  · rintro ⟨unblank, unblankBefore⟩
    have kept := plain.mpr unblank
    exact ⟨sticks.mpr kept,
      (restores kept).mpr ((AddressFormat.normalize_standard_write_iff _).mpr unblankBefore)⟩

/-- A folder inside a folder with a blank in its name, which is entered after a visit by way of
the bar. -/
theorem entered_folder_stays_on_nested :
    ∃ view child, (ofTree .standard (some (.ofFragment "")) (Tree.nestedTree "a b" "c")).run
        [.enter "a b", .bar .back, .bar .forward] = view ∧
      view.trail.current.child? "c" = some child ∧ child.isFolder = true ∧
      view.Sticks "c" child (view.step (.enter "c")).view ∧
      view.Restores ((view.step (.enter "c")).view.step .leave).view := by
  have found : ((ofTree .standard (some (.ofFragment "")) (Tree.nestedTree "a b" "c")).run
      [.enter "a b", .bar .back, .bar .forward]).trail.current.child? "c" =
      some (.folder ⟨"c", none, none⟩ []) := by
    cbv
  rcases entered_folder_stays_iff _ _ _ found rfl with ⟨view, ran, -, -, -, both⟩
  have path : ((ofTree .standard (some (.ofFragment "")) (Tree.nestedTree "a b" "c")).run
      [.enter "a b", .bar .back, .bar .forward]).trail.path = ["a b"] := by
    cbv
  rw [ran] at found path
  have stays := both.mpr ⟨by decide, by rw [path]; decide⟩
  exact ⟨view, _, ran, found, rfl, stays⟩

/-- A folder whose name ends with a blank. -/
def blankData : Json :=
  .object [("name", .text "root"),
    ("children", .list [.object [("name", .text "src "), ("children", .list [])]])]

/-- It is left as soon as it is entered: the bar shows its address without the blank, of which
there is no folder. -/
theorem blank_ending_folder_not_kept :
    ∃ root child, Tree.ofJson blankData = .ok root ∧
      (ofTree .standard (some (.ofFragment "")) root).trail.current.child? "src " = some child ∧
      child.isFolder = true ∧
      ¬ (ofTree .standard (some (.ofFragment "")) root).Sticks "src " child
        ((ofTree .standard (some (.ofFragment "")) root).step (.enter "src ")).view := by
  let root : Tree := .folder ⟨"root", none, none⟩ [.folder ⟨"src ", none, none⟩ []]
  refine ⟨root, .folder ⟨"src ", none, none⟩ [], rfl, rfl, rfl, fun sticks => ?_⟩
  have left : ((ofTree .standard (some (.ofFragment "")) root).step
      (.enter "src ")).view.trail.path = [] := by
    cbv
  exact List.cons_ne_nil _ _ (left.symm.trans sticks.path_eq).symm

end TreemapView
end MutationViewer
