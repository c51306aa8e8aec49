import MutationViewer.Proofs.Source.Delivery
import MutationViewer.Proofs.Source.Nearest

/-!
# Entries of the picker

The picker of a location offers "none" and then its candidates.  Entries are
chosen by the ids of mutants, so an entry stands for its mutant only if the id is
not one that asks for none and not the id of another candidate.  Where that is so,
a step of a traversal moves to the neighbouring entry, and past an end it goes on
to the first candidate that is met in the nearest location that has one.
-/

namespace MutationViewer

namespace Report

variable {report : Report} {location : Location}

theorem ListsOnce.nodup_mutantIds (once : report.ListsOnce)
    (member : location ∈ report.locations) : location.mutantIds.Nodup :=
  (List.nodup_flatMap.mp once).1 location member

/-- What a picker relies on: every mutant is listed once, and no listed id is one
that asks for none. -/
structure Choosable (report : Report) : Prop where
  once : report.ListsOnce
  named : ∀ location ∈ report.locations, ∀ id ∈ location.mutantIds,
    id ≠ "" ∧ id ≠ Viewer.noneEntry

end Report

namespace Filters

variable {report : Report} {location : Location} (filters : Filters)

theorem mem_candidatesAt_iff (coherent : report.Coherent) (mutant : Mutant) :
    mutant ∈ filters.candidatesAt report location ↔
      mutant.id ∈ location.mutantIds ∧ report.mutant? mutant.id = some mutant ∧
        filters.passes mutant = true := by
  rw [candidatesAt, List.mem_filter, coherent.mem_mutantsOf_iff, and_assoc]

theorem map_id_candidatesAt_sublist (coherent : report.Coherent)
    (member : location ∈ report.locations) :
    ((filters.candidatesAt report location).map Mutant.id).Sublist location.mutantIds := by
  rw [← coherent.map_id_mutantsOf member]
  exact List.filter_sublist.map _

end Filters

namespace Viewer

variable {viewer : Viewer}

/-- The entries of a location's picker: no mutant, and then each candidate. -/
def entries (viewer : Viewer) (location : Location) : List (Option Mutant) :=
  none :: (viewer.filters.candidatesAt viewer.report location).map some

def atEntry (viewer : Viewer) (location : Location) (entry : Option Mutant) : Selection :=
  ⟨some location, entry, viewer.selection.shows⟩

/-- The selection of a mutant in its own location. -/
def atMutant (viewer : Viewer) (mutant : Mutant) : Selection :=
  ⟨viewer.report.owner? mutant.id, some mutant, viewer.selection.shows⟩

theorem askedMutant_of_ne {id : String} (nonempty : id ≠ "") (notNone : id ≠ noneEntry) :
    askedMutant (some id) = some id := by
  simp [askedMutant, Option.filter, nonempty, notNone]

theorem candidates_of_located {location : Location}
    (located : viewer.selection.location = some location) :
    viewer.candidates = viewer.filters.candidatesAt viewer.report location := by
  rw [candidates, located]
  rfl

/-- The ids tell the entries of a location's picker apart: those of its candidates are
different, and none of them asks for none. -/
structure TellsApart (viewer : Viewer) (location : Location) : Prop where
  distinct : ((viewer.filters.candidatesAt viewer.report location).map Mutant.id).Nodup
  named : ∀ mutant ∈ viewer.filters.candidatesAt viewer.report location,
    mutant.id ≠ "" ∧ mutant.id ≠ noneEntry

theorem tellsApart_of_choosable (coherent : viewer.report.Coherent)
    (choosable : viewer.report.Choosable) {location : Location}
    (member : location ∈ viewer.report.locations) : viewer.TellsApart location where
  distinct := (choosable.once.nodup_mutantIds member).sublist
    (viewer.filters.map_id_candidatesAt_sublist coherent member)
  named mutant candidate :=
    choosable.named location member mutant.id
      ((viewer.filters.mem_candidatesAt_iff coherent mutant).mp candidate).1

theorem TellsApart.named_entry {location : Location} (apart : viewer.TellsApart location)
    {entry : Option Mutant} (offered : entry ∈ viewer.entries location) :
    ∀ mutant ∈ entry, mutant.id ≠ "" ∧ mutant.id ≠ noneEntry := by
  rintro mutant rfl
  exact apart.named mutant (by simpa [entries] using offered)

theorem cause_choose {location : Location} (located : viewer.selection.location = some location)
    (entry : Option String) : (viewer.choose entry).cause = some .mutant := by
  simp [choose, located]

theorem cause_chooseEntry {location : Location}
    (located : viewer.selection.location = some location) (place : Nat) :
    (viewer.chooseEntry place).cause = some .mutant :=
  cause_choose located _

section

variable {location : Location}
  (distinct : ((viewer.filters.candidatesAt viewer.report location).map Mutant.id).Nodup)
  (located : viewer.selection.location = some location)

include distinct located

theorem candidate?_of_mem {mutant : Mutant}
    (candidate : mutant ∈ viewer.filters.candidatesAt viewer.report location) :
    viewer.candidate? mutant.id = some mutant := by
  rw [candidate?, candidates_of_located located]
  cases found : (viewer.filters.candidatesAt viewer.report location).find? fun other =>
      other.id == mutant.id with
  | none =>
      have missed := List.find?_eq_none.mp found mutant candidate
      simp at missed
  | some other =>
      have same := List.inj_on_of_nodup_map distinct (List.mem_of_find?_eq_some found) candidate
        (by simpa using List.find?_some found)
      rw [same]

/-- Choosing an entry by its number selects that entry, unless its id asks for none. -/
theorem chooseEntry_selection {entry : Nat} {chosen : Option Mutant}
    (stands : (viewer.entries location)[entry]? = some chosen)
    (named : ∀ mutant ∈ chosen, mutant.id ≠ "" ∧ mutant.id ≠ noneEntry) :
    (viewer.chooseEntry entry).selection = viewer.atEntry location chosen := by
  cases entry with
  | zero =>
      cases stands
      simp [chooseEntry, choose, located, askedMutant, atEntry]
  | succ index =>
      rw [entries, List.getElem?_cons_succ, List.getElem?_map, Option.map_eq_some_iff] at stands
      rcases stands with ⟨mutant, stands, rfl⟩
      have found := candidate?_of_mem distinct located (List.mem_of_getElem? stands)
      rcases named mutant rfl with ⟨nonempty, notNone⟩
      rw [chooseEntry_succ (by rw [candidates_of_located located]; exact stands)]
      simp [choose, located, askedMutant_of_ne nonempty notNone, found, atEntry]

theorem activeEntry_of_split {earlier later : List (Option Mutant)}
    (split : viewer.entries location = earlier ++ viewer.selection.mutant :: later) :
    viewer.activeEntry = .ok earlier.length := by
  unfold activeEntry
  cases earlier with
  | nil =>
      have first := (List.cons.inj split).1
      rw [← first]
      rfl
  | cons first tail =>
      have candidates := (List.cons.inj split).2
      rcases List.map_eq_append_iff.mp candidates with ⟨left, right, parts, rfl, rightEq⟩
      rcases List.map_eq_cons_iff.mp rightEq with ⟨mutant, right, rfl, active, -⟩
      -- The search is by ids, so it must not stop at an earlier candidate of the same id.
      rw [parts, List.map_append, List.map_cons] at distinct
      have different : ∀ other ∈ left, other.id ≠ mutant.id := by
        intro other among same
        have apart := (List.nodup_append.mp distinct).2.2
        exact apart _ (List.mem_map_of_mem among) _ List.mem_cons_self same
      have index : (left ++ mutant :: right).findIdx? (fun other => other.id == mutant.id) =
          some left.length := by
        have missed : left.findIdx? (fun other => other.id == mutant.id) = none := by
          rw [List.findIdx?_eq_none_iff]
          intro other among
          simpa using different other among
        simp [List.findIdx?_append, missed, List.findIdx?_cons]
      rw [← active, candidates_of_located located, parts]
      simp [index]

end

/-! ## Steps of a traversal -/

/-- The move selects something and says so, or it is refused. -/
def Comes (viewer : Viewer) (move : Move) : Option Selection -> Prop
  | some selection => move.answer = true ∧ move.selection = selection
  | none => move = viewer.stay false none

/-- An entry is stepped to if there is one in the direction. -/
theorem stepEntry_eq {location : Location} (located : viewer.selection.location = some location)
    (direction : Direction) (center : Bool) (entry : Nat) :
    viewer.stepEntry direction center entry =
      match direction.place? (viewer.entries location).length false entry 1 with
      | some place => viewer.chooseEntry place
      | none => viewer.pastEnd direction center := by
  have length : (viewer.entries location).length = viewer.candidates.length + 1 := by
    simp [entries, candidates_of_located located]
  unfold stepEntry Direction.place?
  rw [length]
  dsimp only
  by_cases fits : 0 ≤ (entry : Int) + direction.step ∧
      (entry : Int) + direction.step ≤ viewer.candidates.length
  · rw [if_pos fits, if_pos (by omega)]
    simp
  · rw [if_neg fits, if_neg (by omega)]
    rfl

section

variable (coherent : viewer.report.Coherent)

include coherent

theorem jumpTo_of_candidate {location : Location} (member : location ∈ viewer.report.locations)
    {mutant : Mutant} (candidate : mutant ∈ viewer.filters.candidatesAt viewer.report location) :
    (viewer.jumpTo mutant.id).selection = viewer.atMutant mutant ∧
      (viewer.jumpTo mutant.id).answer = true ∧
      (viewer.jumpTo mutant.id).cause = some .mutant := by
  rcases (viewer.filters.mem_candidatesAt_iff coherent mutant).mp candidate
    with ⟨listed, known, passes⟩
  have owned := (viewer.report.owner?_isSome_iff mutant.id).mpr ⟨location, member, listed⟩
  rcases Option.isSome_iff_exists.mp owned with ⟨owner, owned⟩
  rw [atMutant, owned]
  exact viewer.jumpTo_of_owned known owned passes

variable {location : Location} {before after : List Location}
  (located : viewer.selection.location = some location)
  (split : viewer.report.locations = before ++ location :: after)

include located split

theorem goOn_of_met {direction : Direction} {mutant : Mutant}
    (met : viewer.nextCandidate? direction = some mutant) (center : Bool) :
    (viewer.goOn direction center).selection = viewer.atMutant mutant ∧
      (viewer.goOn direction center).answer = true ∧
      (viewer.goOn direction center).cause = some .mutant := by
  unfold goOn
  rw [met]
  rw [nextCandidate?_eq coherent located split] at met
  rcases List.exists_of_findSome?_eq_some met with ⟨other, ahead, first⟩
  have member : other ∈ viewer.report.locations := split ▸ Direction.mem_of_mem_ahead ahead
  rw [direction.firstMet_eq] at first
  exact jumpTo_of_candidate coherent member (Direction.mem_met.mp (List.mem_of_head? first))

/-- Going on selects the first candidate that is met in the nearest location that
has one, and is refused if none has. -/
theorem comes_goOn (direction : Direction) (center : Bool) :
    viewer.Comes (viewer.goOn direction center)
      (((direction.ahead viewer.settings.ring before location after).findSome? fun other =>
        direction.firstMet (viewer.filters.candidatesAt viewer.report other)).map
          viewer.atMutant) := by
  rw [← nextCandidate?_eq coherent located split]
  cases met : viewer.nextCandidate? direction with
  | none =>
      rw [goOn, met]
      rfl
  | some mutant =>
      rcases goOn_of_met coherent located split met center with ⟨selected, answered, -⟩
      exact ⟨answered, selected⟩

variable (choosable : viewer.report.Choosable)

include choosable

/-- A traversal that goes on elsewhere moves to the next entry in its direction; past
the last one it moves to the first candidate that is met in the nearest location. -/
theorem comes_walkMutants (goesOn : viewer.settings.overrun = .goOn)
    {earlier later : List (Option Mutant)}
    (entrySplit : viewer.entries location = earlier ++ viewer.selection.mutant :: later)
    (direction : Direction) (center : Bool) :
    ∃ move, viewer.walkMutants (some direction) center = .ok move ∧
      viewer.Comes move
        (((direction.ahead false earlier viewer.selection.mutant later).head?.map
          (viewer.atEntry location)).or
        (((direction.ahead viewer.settings.ring before location after).findSome? fun other =>
          direction.firstMet (viewer.filters.candidatesAt viewer.report other)).map
            viewer.atMutant)) := by
  have member : location ∈ viewer.report.locations := by simp [split]
  have apart := tellsApart_of_choosable coherent choosable member
  have active := activeEntry_of_split apart.distinct located entrySplit
  refine ⟨viewer.stepEntry direction center earlier.length, ?_, ?_⟩
  · simp only [walkMutants, located, active]
    rfl
  · have placed := Direction.getElem?_ahead false direction earlier viewer.selection.mutant later
      Nat.one_pos (by simp; omega)
    rw [Nat.sub_self, ← List.head?_eq_getElem?, ← entrySplit] at placed
    rw [stepEntry_eq located, placed]
    cases target : direction.place? (viewer.entries location).length false earlier.length 1 with
    | none =>
        rw [Option.bind_none, Option.map_none, Option.none_or]
        simp only [pastEnd, goesOn]
        exact comes_goOn coherent located split direction center
    | some place =>
        have inside := Direction.place?_lt (fun ring => absurd ring Bool.false_ne_true) target
        have stands := List.getElem?_eq_getElem inside
        rw [Option.bind_some, stands, Option.map_some, Option.some_or]
        exact ⟨rfl, chooseEntry_selection apart.distinct located stands
          (apart.named_entry (List.getElem_mem inside))⟩

end

end Viewer
end MutationViewer
