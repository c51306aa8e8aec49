import MutationViewer.OrderedMap

/-!
# Reports on one source page

A report lists the locations of a source file in document order, each with the
mutants made there.  Reports read from a dataset have distinct location ids,
but nothing here depends on it: where ids repeat, the last location of an id
stands for it, and a mutant belongs to the first location that lists it.
-/

namespace MutationViewer

/-- One mutation of one location, with the texts that describe it. -/
structure Mutant where
  id : String
  status : String
  kind : String
  kindGroup : String
  replaced : String
  replacement : String
  metadata : String
  testCases : List String
deriving DecidableEq, Repr

/-- An addressable place of the source and the ids of its mutants, in order. -/
structure Location where
  id : String
  mutantIds : List String
deriving DecidableEq, Repr

/-- The data of one source page. -/
structure Report where
  locations : List Location
  mutants : OrderedMap Mutant
  statusLabels : List String
  kindLabels : List String
  kills : OrderedMap Int

namespace Report

/-- The location that an id stands for. -/
def location? (report : Report) (id : String) : Option Location :=
  report.locations.reverse.find? fun location => location.id == id

def mutant? (report : Report) (id : String) : Option Mutant :=
  report.mutants.get? id

/-- The place in the document of the location that an id stands for. -/
def position? (report : Report) (id : String) : Option Nat :=
  (report.locations.zipIdx.reverse.find? fun placed => placed.1.id == id).map Prod.snd

/-- The location that a mutant belongs to. -/
def owner? (report : Report) (mutantId : String) : Option Location :=
  (report.locations.find? fun location => location.mutantIds.contains mutantId).bind fun owner =>
    report.location? owner.id

def Lists (report : Report) (mutantId : String) : Prop :=
  ∃ location ∈ report.locations, mutantId ∈ location.mutantIds

/-- The mutants that a location lists, unknown ids left out. -/
def mutantsOf (report : Report) (location : Location) : List Mutant :=
  location.mutantIds.filterMap report.mutant?

theorem location?_id {report : Report} {id : String} {location : Location}
    (found : report.location? id = some location) : location.id = id := by
  have hit := List.find?_some found
  simpa using hit

theorem location?_mem {report : Report} {id : String} {location : Location}
    (found : report.location? id = some location) : location ∈ report.locations :=
  List.mem_reverse.mp (List.mem_of_find?_eq_some found)

theorem location?_isSome_of_mem {report : Report} {location : Location}
    (member : location ∈ report.locations) : (report.location? location.id).isSome :=
  List.find?_isSome.mpr ⟨location, List.mem_reverse.mpr member, beq_self_eq_true _⟩

/-- The mutants with an owner are those that some location lists: the location that lists a
mutant first is always found again under its id. -/
theorem owner?_isSome_iff (report : Report) (id : String) :
    (report.owner? id).isSome ↔ report.Lists id := by
  constructor
  · intro owned
    rcases Option.isSome_iff_exists.mp owned with ⟨location, found⟩
    rcases Option.bind_eq_some_iff.mp found with ⟨first, lists, -⟩
    exact ⟨first, List.mem_of_find?_eq_some lists, by simpa using List.find?_some lists⟩
  · rintro ⟨location, member, listed⟩
    have hit : (report.locations.find? fun location => location.mutantIds.contains id).isSome :=
      List.find?_isSome.mpr ⟨location, member, by simpa using listed⟩
    rcases Option.isSome_iff_exists.mp hit with ⟨first, found⟩
    rw [owner?, found, Option.bind_some]
    exact location?_isSome_of_mem (List.mem_of_find?_eq_some found)

end Report
end MutationViewer
