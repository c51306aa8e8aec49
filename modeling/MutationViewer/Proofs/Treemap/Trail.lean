import MutationViewer.Proofs.Tree.Reading
import MutationViewer.Treemap.View

/-!
# Trails through a tree

A trail is sound if its stack and its path lead from the root to the folder on show: each
folder is entered from the one before by the name beside it.  A sound trail therefore has
as many names as folders on its stack.  Entering and leaving keep it sound, and so does
following a path of folders.
-/

namespace MutationViewer

/-- The folders that were left and the names that were entered lead from one folder to
another. -/
inductive Leads : Tree -> List Tree -> List String -> Tree -> Prop where
  | here (tree : Tree) : Leads tree [] [] tree
  | entered {root current child : Tree} {stack : List Tree} {path : List String} {name : String}
      (before : Leads root stack path current) (found : current.folder? name = some child) :
      Leads root (stack ++ [current]) (path ++ [name]) child

namespace Leads

variable {root current left : Tree} {stack : List Tree} {path : List String}

theorem length_eq (leads : Leads root stack path current) : stack.length = path.length := by
  induction leads with
  | here => rfl
  | entered before found ih => rw [List.length_append, List.length_append, ih]; rfl

theorem before_last (leads : Leads root stack path current)
    (last : stack.getLast? = some left) : Leads root stack.dropLast path.dropLast left := by
  cases leads with
  | here => cases last
  | entered before found =>
      rw [List.getLast?_concat, Option.some.injEq] at last
      subst last
      rw [List.dropLast_concat, List.dropLast_concat]
      exact before

theorem walk (leads : Leads root stack path current) : root.walk path = some current := by
  induction leads with
  | here => rfl
  | entered before found ih =>
      rw [Tree.walk_append, ih]
      simp [Tree.walk, found]

end Leads

def Trail.Sound (trail : Trail) : Prop :=
  Leads trail.root trail.stack trail.path trail.current

namespace Tree

theorem sizeOf_folder? {tree child : Tree} {name : String}
    (found : tree.folder? name = some child) : sizeOf child < sizeOf tree := by
  have member := List.mem_of_find?_eq_some (Option.filter_eq_some_iff.mp found).1
  cases tree with
  | file entry => cases member
  | folder entry children =>
      have inside := List.sizeOf_lt_of_mem member
      simp only [Tree.children] at inside
      simp only [Tree.folder.sizeOf_spec]
      omega

/-- No path but the empty one leads back to where it starts. -/
theorem sizeOf_walk {tree reached : Tree} {path : List String}
    (walked : tree.walk path = some reached) :
    sizeOf reached ≤ sizeOf tree ∧ (path ≠ [] -> sizeOf reached < sizeOf tree) := by
  induction path generalizing tree with
  | nil =>
      cases walked
      exact ⟨Nat.le_refl _, fun some => absurd rfl some⟩
  | cons name path ih =>
      rcases Option.bind_eq_some_iff.mp walked with ⟨child, found, below⟩
      have smaller := sizeOf_folder? found
      have bound := (ih below).1
      exact ⟨by omega, fun _ => by omega⟩

end Tree

namespace Trail

variable {trail : Trail}

theorem sound_atRoot (root : Tree) : (atRoot root).Sound :=
  .here root

theorem Sound.enter (sound : trail.Sound) {name : String} {child : Tree}
    (found : trail.current.folder? name = some child) : (trail.enter name child).Sound :=
  Leads.entered sound found

theorem Sound.leave (sound : trail.Sound) {left : Trail} (back : trail.leave? = some left) :
    left.root = trail.root ∧ left.Sound := by
  rcases Option.map_eq_some_iff.mp back with ⟨folder, last, rfl⟩
  exact ⟨rfl, Leads.before_last sound last⟩

theorem Sound.hasFolder (sound : trail.Sound) : trail.root.HasFolder trail.path := by
  rw [Tree.HasFolder, Leads.walk sound]
  rfl

/-- The root is on show exactly if no folder has been entered. -/
theorem Sound.current_eq_root_iff (sound : trail.Sound) :
    trail.current = trail.root ↔ trail.path = [] := by
  have walked := Leads.walk sound
  constructor
  · intro same
    rw [same] at walked
    by_cases ended : trail.path = []
    · exact ended
    · exact absurd ((Tree.sizeOf_walk walked).2 ended) (Nat.lt_irrefl _)
  · intro ended
    rw [ended] at walked
    exact (Option.some.inj walked).symm

/-- There is one sound trail without names, the one at the root. -/
theorem Sound.eq_atRoot (sound : trail.Sound) (ended : trail.path = []) :
    trail = .atRoot trail.root := by
  have current := sound.current_eq_root_iff.mpr ended
  have noneLeft : trail.stack.length = 0 := by rw [Leads.length_eq sound, ended]; rfl
  have stack := List.length_eq_zero_iff.mp noneLeft
  rcases trail with ⟨root, _, _, _⟩
  dsimp only at current stack ended
  subst current stack ended
  rfl

theorem Sound.follow (sound : trail.Sound) {path : List String}
    (folders : trail.current.HasFolder path) :
    (trail.follow path).root = trail.root ∧ (trail.follow path).path = trail.path ++ path ∧
      (trail.follow path).Sound := by
  induction path generalizing trail with
  | nil => exact ⟨rfl, (List.append_nil _).symm, sound⟩
  | cons name path ih =>
      rcases Tree.hasFolder_cons_iff.mp folders with ⟨child, found, below⟩
      have named := (Option.filter_eq_some_iff.mp found).1
      rcases ih (sound.enter found) below with ⟨rootEq, pathEq, sound⟩
      rw [follow_cons named]
      refine ⟨rootEq, ?_, sound⟩
      rw [pathEq, Trail.enter, List.append_assoc]
      rfl

/-- A path that is read from an address is followed from the root to its end, and no name on
it is passed over. -/
theorem follow_located {root : Tree} {format : AddressFormat} {fragment : String}
    {path : List String} (read : root.locate format (some fragment) = .ok (some path)) :
    ((atRoot root).follow path).root = root ∧ ((atRoot root).follow path).path = path ∧
      ((atRoot root).follow path).Sound :=
  (sound_atRoot root).follow (Tree.locateNormal_sound read).1

end Trail
end MutationViewer
