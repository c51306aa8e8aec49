import Mathlib.Data.List.Perm.Subperm
import MutationViewer.Proofs.Source.Echo
import MutationViewer.Proofs.Source.Review

/-!
# Steps that wrap around

A traversal that wraps around takes the entries of a picker as a ring.  No place in the
ring is stored: a step finds the active mutant by its id, chooses the next entry by the id
of that, and writes the id to the bar, if there is one.  So the next entry becomes active
only if its id does not ask for none and the bar does not answer it.  Otherwise a mutant
with a shorter id becomes active, or none at all.
-/

namespace MutationViewer

namespace Direction

/-- The next of some places that form a ring. -/
def turn (direction : Direction) (count place : Nat) : Nat :=
  match direction with
  | forward => if place + 1 < count then place + 1 else 0
  | backward => if place = 0 then count - 1 else place - 1

theorem turn_lt {direction : Direction} {count place : Nat} (inside : place < count) :
    direction.turn count place < count := by
  cases direction <;> simp only [turn] <;> split <;> omega

theorem turn_injOn (direction : Direction) (count : Nat) :
    ∀ first ∈ List.range count, ∀ second ∈ List.range count,
      direction.turn count first = direction.turn count second -> first = second := by
  intro first firstIn second secondIn same
  rw [List.mem_range] at firstIn secondIn
  cases direction <;> simp only [turn] at same <;> split at same <;> split at same <;> omega

theorem map_turn_perm (direction : Direction) (count : Nat) :
    ((List.range count).map (direction.turn count)).Perm (List.range count) := by
  have distinct : ((List.range count).map (direction.turn count)).Nodup :=
    List.Nodup.map_on (direction.turn_injOn count) List.nodup_range
  have inside : (List.range count).map (direction.turn count) ⊆ List.range count := by
    intro next turned
    rcases List.mem_map.mp turned with ⟨place, member, rfl⟩
    exact List.mem_range.mpr (turn_lt (List.mem_range.mp member))
  exact (List.subperm_of_subset distinct inside).perm_of_length_le (by simp)

end Direction

namespace Viewer

variable {viewer : Viewer} {location : Location}

/-- How long the id of an entry is.  "none" is shorter than any id. -/
def idLength : Option Mutant -> Nat
  | none => 0
  | some mutant => mutant.id.length + 1

theorem idLength_congr {first second : Option Mutant}
    (same : first.map Mutant.id = second.map Mutant.id) : idLength first = idLength second := by
  cases first <;> cases second <;> simp_all [idLength]

/-- The entry that is active is one with the id of the active mutant. -/
theorem entry_of_activeEntry {place : Nat} (active : viewer.activeEntry = .ok place)
    (located : viewer.selection.location = some location) :
    ∃ entry, (viewer.entries location)[place]? = some entry ∧
      entry.map Mutant.id = viewer.selection.mutant.map Mutant.id := by
  unfold activeEntry at active
  split at active
  · next cleared =>
      cases active
      exact ⟨none, rfl, by rw [cleared]⟩
  · next mutant chosen =>
      split at active
      · next index found =>
          cases active
          rw [candidates_of_located located] at found
          rcases List.findIdx?_eq_some_iff_getElem.mp found with ⟨inside, same, -⟩
          exact ⟨some (viewer.filters.candidatesAt viewer.report location)[index],
            by simp [entries, inside], by simpa [chosen] using same⟩
      · cases active

/-- If every number is that of some active entry, the ids of the candidates are different. -/
theorem distinct_of_activeEntries
    (every : ∀ place < (viewer.entries location).length, ∃ selection,
      selection.location = some location ∧
      (viewer.withSelection selection).activeEntry = .ok place) :
    ((viewer.filters.candidatesAt viewer.report location).map Mutant.id).Nodup := by
  rw [List.Nodup, List.pairwise_iff_getElem]
  intro first second firstIn secondIn before same
  simp only [List.length_map] at firstIn secondIn
  rcases every (second + 1) (by simpa [entries] using secondIn) with ⟨selection, located, active⟩
  unfold activeEntry at active
  split at active
  · cases active
  · next mutant chosen =>
      rw [candidates_of_located located] at active
      split at active
      · next index found =>
          have place : index = second := by simpa using active
          subst place
          rcases List.findIdx?_eq_some_iff_getElem.mp found with ⟨_, here, missed⟩
          have other := missed first before
          simp only [List.getElem_map] at same
          rw [beq_iff_eq] at here
          simp only [withSelection] at same here other
          rw [same, here] at other
          simp at other
      · cases active

section

variable (distinct : ((viewer.filters.candidatesAt viewer.report location).map Mutant.id).Nodup)

include distinct

theorem activeEntry_withSelection {selection : Selection}
    (located : selection.location = some location) {earlier later : List (Option Mutant)}
    (split : viewer.entries location = earlier ++ selection.mutant :: later) :
    (viewer.withSelection selection).activeEntry = .ok earlier.length :=
  @activeEntry_of_split (viewer.withSelection selection) location distinct located earlier later
    split

theorem activeEntry_of_stands {selection : Selection}
    (located : selection.location = some location) {place : Nat}
    (stands : (viewer.entries location)[place]? = some selection.mutant) :
    (viewer.withSelection selection).activeEntry = .ok place := by
  rcases getElem?_split stands with ⟨inside, split, -⟩
  rw [activeEntry_withSelection distinct located split, List.length_take, Nat.min_eq_left inside.le]

theorem map_activeEntry_entries :
    ((viewer.entries location).map fun entry =>
      (viewer.withSelection (viewer.atEntry location entry)).activeEntry) =
      (List.range (viewer.entries location).length).map .ok := by
  apply List.ext_getElem?
  intro place
  by_cases inside : place < (viewer.entries location).length
  · have stands := List.getElem?_eq_getElem inside
    have active : (viewer.withSelection (viewer.atEntry location
        (viewer.entries location)[place])).activeEntry = .ok place :=
      activeEntry_of_stands distinct rfl stands
    simp [active, inside]
  · simp [inside]

end

/-! ## Steps that wrap around -/

theorem stepEntry_of_wraps (wraps : viewer.settings.overrun = .wrap) (direction : Direction)
    (center : Bool) {place : Nat} (inside : place < viewer.candidates.length + 1) :
    viewer.stepEntry direction center place =
      viewer.chooseEntry (direction.turn (viewer.candidates.length + 1) place) := by
  unfold stepEntry
  dsimp only
  cases direction with
  | forward =>
      simp only [Direction.step, Direction.turn, pastEnd, wraps]
      by_cases further : place + 1 < viewer.candidates.length + 1
      · rw [if_pos (by omega), if_pos further]
        rfl
      · rw [if_neg (by omega), if_neg further]
  | backward =>
      simp only [Direction.step, Direction.turn, pastEnd, wraps]
      by_cases first : place = 0
      · rw [if_neg (by omega), if_pos first, Nat.add_sub_cancel]
      · rw [if_pos (by omega), if_neg first]
        congr 1
        omega

/-- An entry whose id asks for none is not chosen. -/
theorem mutant_chooseEntry_of_unnamed (located : viewer.selection.location = some location)
    {place : Nat} {mutant : Mutant}
    (stands : (viewer.entries location)[place]? = some (some mutant))
    (unnamed : ¬ (mutant.id ≠ "" ∧ mutant.id ≠ noneEntry)) :
    (viewer.chooseEntry place).selection.mutant = none := by
  have unasked : askedMutant (some mutant.id) = none := by
    simp only [askedMutant, Option.filter, Bool.not_eq_true', ite_eq_right_iff]
    intro asks
    simp at asks
    exact absurd asks unnamed
  cases place with
  | zero => cases stands
  | succ index =>
      have offered : viewer.candidates[index]? = some mutant := by
        simpa [entries, candidates_of_located located] using stands
      rw [chooseEntry_succ offered]
      simp [choose, located, unasked]

end Viewer

namespace SourceView

variable {view : SourceView} {location : Location} {direction : Direction}

theorem step_of_wraps (wraps : view.viewer.settings.overrun = .wrap)
    (located : view.selection.location = some location) {place next : Nat}
    (active : view.viewer.activeEntry = .ok place)
    (turned : direction.turn (view.viewer.entries location).length place = next)
    (center : Bool) :
    view.step (.walkMutants (some direction) center) =
      .ok ⟨view.perform (view.viewer.chooseEntry next), some true⟩ := by
  have length : (view.viewer.entries location).length = view.viewer.candidates.length + 1 := by
    simp [Viewer.entries, Viewer.candidates_of_located located]
  rcases Viewer.entry_of_activeEntry active located with ⟨entry, stands, -⟩
  have inside := (List.getElem?_eq_some_iff.mp stands).1
  change (view.viewer.walkMutants (some direction) center).map view.answerMove = _
  have located : view.viewer.selection.location = some location := located
  simp only [Viewer.walkMutants, located, active]
  rw [length] at inside turned
  change Except.ok (view.answerMove (view.viewer.stepEntry direction center place)) = _
  rw [Viewer.stepEntry_of_wraps wraps direction center inside, turned]
  rfl

/-- The id of an entry does not ask for none, and the bar lets the entry stand. -/
structure Admits (view : SourceView) (location : Location) (entry : Option Mutant) : Prop where
  named : ∀ mutant ∈ entry, mutant.id ≠ "" ∧ mutant.id ≠ Viewer.noneEntry
  letsStand : ∀ shown ∈ view.shown,
    view.viewer.LetsStand shown (view.viewer.atEntry location entry)

/-- What a step to an entry comes to.  If the entry is admitted it becomes active and the bar
shows it.  Otherwise an entry with a shorter id becomes active, or "none". -/
structure Arrives (view : SourceView) (location : Location) (entry : Option Mutant)
    (next : SourceView) : Prop where
  viewer_eq : next.viewer = view.viewer.withSelection next.selection
  admitted : view.Admits location entry ->
    next.selection = view.viewer.atEntry location entry ∧
      next.shown = view.shown.map fun _ =>
        Fragment.normalize (fragmentOf .mutant (view.viewer.atEntry location entry))
  refused : ¬ view.Admits location entry ->
    Viewer.idLength next.selection.mutant < Viewer.idLength entry

section

variable (coherent : view.viewer.report.Coherent)
  (distinct : ((view.viewer.filters.candidatesAt view.viewer.report location).map
    Mutant.id).Nodup)
  (located : view.selection.location = some location)

include coherent distinct located

theorem arrives_chooseEntry {place : Nat} {entry : Option Mutant}
    (stands : (view.viewer.entries location)[place]? = some entry) :
    Arrives view location entry (view.perform (view.viewer.chooseEntry place)) := by
  have spoken : (view.viewer.chooseEntry place).cause = some .mutant :=
    Viewer.cause_chooseEntry located place
  refine ⟨view.viewer_perform_of_cause spoken, fun admits => ?_, fun refused => ?_⟩
  · have chosen := Viewer.chooseEntry_selection distinct located stands admits.named
    have shown := view.shown_perform spoken
    rw [chosen] at shown
    refine ⟨?_, shown⟩
    rw [selection, viewer_perform_of_letsStand spoken (by rw [chosen]; exact admits.letsStand),
      chosen]
    rfl
  · by_cases named : ∀ mutant ∈ entry, mutant.id ≠ "" ∧ mutant.id ≠ Viewer.noneEntry
    · have chosen := Viewer.chooseEntry_selection distinct located stands named
      rcases letsStand_or_shorter spoken coherent with letsStand | ⟨mutant, entered, shorter⟩
      · rw [chosen] at letsStand
        exact absurd ⟨named, letsStand⟩ refused
      · rw [chosen] at entered
        change entry = some mutant at entered
        rw [entered]
        cases landed : (view.perform (view.viewer.chooseEntry place)).selection.mutant with
        | none => exact Nat.succ_pos _
        | some other => exact Nat.succ_lt_succ (shorter other landed)
    · simp only [not_forall] at named
      rcases named with ⟨mutant, rfl, unnamed⟩
      have cleared := Viewer.mutant_chooseEntry_of_unnamed located stands unnamed
      rcases letsStand_or_shorter spoken coherent with letsStand | ⟨other, entered, -⟩
      · rw [selection, viewer_perform_of_letsStand spoken letsStand]
        change Viewer.idLength (view.viewer.chooseEntry place).selection.mutant < _
        rw [cleared]
        exact Nat.succ_pos _
      · rw [cleared] at entered
        cases entered

/-- A step that wraps around leads to the entry at the next place. -/
theorem exists_step_of_wraps (wraps : view.viewer.settings.overrun = .wrap) {place : Nat}
    (active : view.viewer.activeEntry = .ok place) (direction : Direction) (center : Bool) :
    ∃ next entry, view.step (.walkMutants (some direction) center) = .ok ⟨next, some true⟩ ∧
      (view.viewer.entries location)[direction.turn (view.viewer.entries location).length place]? =
        some entry ∧
      Arrives view location entry next := by
  rcases Viewer.entry_of_activeEntry active located with ⟨_, here, -⟩
  have inside : direction.turn (view.viewer.entries location).length place <
      (view.viewer.entries location).length :=
    Direction.turn_lt (List.getElem?_eq_some_iff.mp here).1
  have stands := List.getElem?_eq_getElem inside
  exact ⟨_, _, step_of_wraps wraps located active rfl center, stands,
    arrives_chooseEntry coherent distinct located stands⟩

end

end SourceView
end MutationViewer
