import MutationViewer.Source.Viewer

/-!
# Traversing locations and mutants

Locations are stepped through in document order, and the mutants of a location
in the order of the picker, whose entry zero is "none".  The settings
say what happens beyond an end.  A traversal of mutants that goes on elsewhere
looks for the nearest location with candidates and tries its own location last.
-/

namespace MutationViewer

/-- Forward is down the document and down the picker. -/
inductive Direction where
  | forward
  | backward
deriving DecidableEq, Repr

namespace Direction

/-- The direction of a signed amount; zero has none. -/
def ofInt? (amount : Int) : Option Direction :=
  if amount = 0 then none
  else if 0 < amount then some .forward
  else some .backward

/-- The direction of a signed amount that need not be whole. -/
def ofFloat? (amount : Float) : Option Direction :=
  if amount == 0 then none
  else if 0 < amount then some .forward
  else some .backward

def step : Direction -> Int
  | forward => 1
  | backward => -1

/-- The first item that is met in a direction. -/
def firstMet {Item : Type} : Direction -> List Item -> Option Item
  | forward, items => items.head?
  | backward, items => items.getLast?

/-- The place at a distance from another among `count` places.  Beyond the ends
there is none, unless the places form a ring. -/
def place? (direction : Direction) (count : Nat) (ring : Bool) (origin : Int) (distance : Nat) :
    Option Nat :=
  let target := origin + direction.step * distance
  if 0 ≤ target ∧ target < count then some target.toNat
  else if ring then some (target % count).toNat
  else none

/-- A place that is stepped to is one of the places.  In a ring there has to be one. -/
theorem place?_lt {direction : Direction} {count distance place : Nat} {ring : Bool} {origin : Int}
    (occupied : ring = true -> 0 < count)
    (placed : direction.place? count ring origin distance = some place) : place < count := by
  unfold place? at placed
  dsimp only at placed
  split at placed
  · next inside =>
      cases placed
      omega
  · split at placed
    · next closed =>
        have positive := occupied closed
        have lower := Int.emod_nonneg (origin + direction.step * distance) (b := count) (by omega)
        have upper := Int.emod_lt_of_pos (origin + direction.step * distance)
          (b := count) (by omega)
        cases placed
        omega
    · cases placed

end Direction

namespace Viewer

/-- The place of the active location; without one, the place before the first
location that a step in the direction meets. -/
def origin (viewer : Viewer) (direction : Direction) : Int :=
  match viewer.selection.location with
  | some location => ((viewer.report.position? location.id).map Int.ofNat).getD (-1)
  | none =>
      match direction with
      | .forward => -1
      | .backward => viewer.report.locations.length

/-- The location at a distance from the active one. -/
def locationAt? (viewer : Viewer) (direction : Direction) (distance : Nat) : Option Location :=
  (direction.place? viewer.report.locations.length viewer.settings.ring
    (viewer.origin direction) distance).bind fun place => viewer.report.locations[place]?

/-- Wherever there is a place to step to, there is a location, unless there is none at all. -/
theorem locationAt?_isSome_iff (viewer : Viewer) (direction : Direction) (distance : Nat) :
    (viewer.locationAt? direction distance).isSome ↔
      viewer.report.locations ≠ [] ∧
        (direction.place? viewer.report.locations.length viewer.settings.ring
          (viewer.origin direction) distance).isSome := by
  unfold locationAt?
  constructor
  · intro found
    rcases Option.isSome_iff_exists.mp found with ⟨location, found⟩
    rcases Option.bind_eq_some_iff.mp found with ⟨place, placed, stands⟩
    exact ⟨List.ne_nil_of_mem (List.mem_of_getElem? stands), by rw [placed]; rfl⟩
  · rintro ⟨nonempty, placed⟩
    rcases Option.isSome_iff_exists.mp placed with ⟨place, placed⟩
    have inside := Direction.place?_lt (fun _ => List.length_pos_iff.mpr nonempty) placed
    rw [placed, Option.bind_some, List.getElem?_eq_getElem inside]
    rfl

def stepLocation (viewer : Viewer) (direction : Direction) : Move :=
  match viewer.locationAt? direction 1 with
  | none => viewer.stay false none
  | some location =>
      { viewer.goTo location.id false with answer := true, centers := true }

/-- Traverse locations by the sign of an amount. -/
def walkLocations (viewer : Viewer) (amount : Option Direction) : Move :=
  match amount with
  | none => viewer.stay false none
  | some direction => viewer.stepLocation direction

/-- The mutant that a traversal goes on to: the first that is met in the nearest
location with candidates, going once through the document. -/
def nextCandidate? (viewer : Viewer) (direction : Direction) : Option Mutant :=
  (List.range' 1 viewer.report.locations.length).findSome? fun distance =>
    (viewer.locationAt? direction distance).bind fun location =>
      direction.firstMet (viewer.filters.candidatesAt viewer.report location)

def goOn (viewer : Viewer) (direction : Direction) (center : Bool) : Move :=
  match viewer.nextCandidate? direction with
  | none => viewer.stay false none
  | some mutant => { viewer.jumpTo mutant.id with centers := center }

/-- Choose an entry of the picker by its number.  By `stepEntry_cases` a traversal asks for no
entry behind the last one. -/
def chooseEntry (viewer : Viewer) (entry : Nat) : Move :=
  let id :=
    match entry with
    | 0 => noneEntry
    | index + 1 => (viewer.candidates[index]?.map Mutant.id).getD noneEntry
  { viewer.choose (some id) with answer := true }

theorem chooseEntry_succ {viewer : Viewer} {index : Nat} {mutant : Mutant}
    (stands : viewer.candidates[index]? = some mutant) :
    viewer.chooseEntry (index + 1) =
      { viewer.choose (some mutant.id) with answer := true } := by
  simp [chooseEntry, stands]

/-- A traversal starts from the active mutant, which has to be an entry of the
picker.  Only in a report whose mutants stand under other ids than their own
can it be missing there. -/
inductive WalkFault where
  | strayMutant (id : String)
deriving DecidableEq, Repr

/-- The number of the active entry of the picker. -/
def activeEntry (viewer : Viewer) : Except WalkFault Nat :=
  match viewer.selection.mutant with
  | none => .ok 0
  | some mutant =>
      match viewer.candidates.findIdx? fun candidate => candidate.id == mutant.id with
      | some index => .ok (index + 1)
      | none => .error (.strayMutant mutant.id)

def pastEnd (viewer : Viewer) (direction : Direction) (center : Bool) : Move :=
  match viewer.settings.overrun with
  | .stop => viewer.stay false none
  | .wrap =>
      viewer.chooseEntry
        (match direction with
        | .forward => 0
        | .backward => viewer.candidates.length)
  | .goOn => viewer.goOn direction center

/-- Step from an entry of the picker to the next one in a direction. -/
def stepEntry (viewer : Viewer) (direction : Direction) (center : Bool) (entry : Nat) : Move :=
  let target := (entry : Int) + direction.step
  if 0 ≤ target ∧ target ≤ viewer.candidates.length then viewer.chooseEntry target.toNat
  else viewer.pastEnd direction center

/-- A step chooses one of the entries, stays, or goes on in another location. -/
theorem stepEntry_cases (viewer : Viewer) (direction : Direction) (center : Bool) (entry : Nat) :
    (∃ place ≤ viewer.candidates.length,
        viewer.stepEntry direction center entry = viewer.chooseEntry place) ∨
      viewer.stepEntry direction center entry = viewer.stay false none ∨
      viewer.stepEntry direction center entry = viewer.goOn direction center := by
  unfold stepEntry
  dsimp only
  split
  · next inside => exact .inl ⟨_, by omega, rfl⟩
  · unfold pastEnd
    split
    · exact .inr (.inl rfl)
    · cases direction with
      | forward => exact .inl ⟨0, Nat.zero_le _, rfl⟩
      | backward => exact .inl ⟨viewer.candidates.length, Nat.le_refl _, rfl⟩
    · exact .inr (.inr rfl)

/-- Traverse mutants by the sign of an amount.  With `center`, a step that ends
in another location brings it into view. -/
def walkMutants (viewer : Viewer) (amount : Option Direction) (center : Bool) :
    Except WalkFault Move :=
  match viewer.selection.location, amount with
  | some _, some direction =>
      viewer.activeEntry.map (viewer.stepEntry direction center)
  | _, _ => .ok (viewer.stay false none)

end Viewer
end MutationViewer
