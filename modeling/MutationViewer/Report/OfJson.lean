import MutationViewer.Dataset
import MutationViewer.Log
import MutationViewer.Report.Basic

/-!
# Reading a report

A dataset is an object with locations, and optionally with mutants, kill counts
and the two lists of labels.  Everything is used as text wherever text is
needed.  Mutants come as a list of records or as an object under their ids;
of several mutants with one id the last counts.  Locations may list mutants
that do not exist: these are dropped with a note.
-/

namespace MutationViewer
namespace Report

open Dataset

/-- A label, given as text or as an index into the labels. -/
def readLabel (kind : LabelKind) (labels : List String) : Json -> Except Fault String
  | .text value => .ok value
  | .int index =>
      if 0 ≤ index then
        match labels[index.toNat]? with
        | some label => .ok label
        | none => .error (.defect (.labelOutOfRange kind index))
      else .error (.defect (.labelOutOfRange kind index))
  | value => .error (.defect (.invalidLabel kind value))

/-- The mutant of a record whose id is known to be there. -/
def mutantOfFields (statusLabels kindLabels : List String) (id : Json)
    (fields : List (String × Json)) : Except Fault Mutant := do
  let kind := (fieldOr "kind" (.text "") fields).asText
  let status <- readLabel .status statusLabels (fieldOr "status" (.text "unknown") fields)
  let kindGroup <- readLabel .kindGroup kindLabels (fieldOr "kind_group" (.text kind) fields)
  let testCases <- itemTexts (fieldOr "test_cases" noItems fields)
  return {
    id := id.asText
    status
    kind
    kindGroup
    replaced := (fieldOr "original" (.text "") fields).asText
    replacement := (fieldOr "mutated" (.text "") fields).asText
    metadata := (fieldOr "metadata" (.text "") fields).asText
    testCases }

def readMutant (statusLabels kindLabels : List String) (record : Json) : Except Fault Mutant := do
  if <- mentions "id" record then
    let fields <- fieldsOf record
    mutantOfFields statusLabels kindLabels (fieldOr "id" .null fields) fields
  else
    throw (.defect (.mutantWithoutId record))

/-- The record of a mutant that stands under its id: an id of its own counts
more. -/
def recordUnder (id : String) : Json -> Except Fault Json
  | .object fields =>
      .ok (.object (("id", fieldOr "id" (.text id) fields) ::
        fields.filter fun field => !(field.1 == "id")))
  | _ => .error (.unsupported .merge)

/-- The records of the mutants, whichever way they are given. -/
def mutantRecords : Json -> Except Fault (List Json)
  | .object fields => fields.mapM fun field => recordUnder field.1 field.2
  | value => items value

/-- The mutants under their ids. -/
def readMutants (statusLabels kindLabels : List String) (value : Json) :
    Except Fault (OrderedMap Mutant) := do
  let records <- mutantRecords value
  let mutants <- records.mapM (readMutant statusLabels kindLabels)
  return OrderedMap.ofList (mutants.map fun mutant => (mutant.id, mutant))

/-- The notes on the ids that a location lists without a mutant to them. -/
def droppedNotes (mutants : OrderedMap Mutant) (location : String) (listed : List String) :
    List Note :=
  (listed.filter fun id => !mutants.contains id).map (.droppedMutant location)

/-- Read one location, given the ids of the locations before it. -/
def readLocation (mutants : OrderedMap Mutant) (seen : List String) (record : Json) :
    Except Fault (Location × List Note) := do
  if <- mentions "id" record then
    match record with
    | .object fields =>
        let id := (fieldOr "id" .null fields).asText
        if seen.contains id then throw (.defect (.duplicateLocation id))
        else
          let listed <- itemTexts (fieldOr "mutants" noItems fields)
          return (⟨id, listed.filter mutants.contains⟩, droppedNotes mutants id listed)
    | _ => throw (.unsupported .field)
  else
    throw (.defect (.locationWithoutId record))

def readLocations (mutants : OrderedMap Mutant) (seen : List String) :
    List Json -> Except Fault (List Location × List Note)
  | [] => return ([], [])
  | record :: records => do
      let (location, notes) <- readLocation mutants seen record
      let (locations, later) <- readLocations mutants (location.id :: seen) records
      return (location :: locations, notes ++ later)

/-- Read one kill count.  A number that is too large to be one is not a defect
of the dataset. -/
def readKills (testCase : String) (count : Json) : Except Fault Int :=
  match Numeral.toInt count with
  | .ok number => .ok number
  | .error .wrongKind | .error .malformed =>
      .error (.defect (.invalidKillCount testCase count))
  | .error fault => .error (.numeral fault)

def readKillCounts (value : Json) : Except Fault (OrderedMap Int) := do
  let fields <- fieldsOf value
  let counts <- fields.mapM fun field => do
    return (field.1, <- readKills field.1 field.2)
  return OrderedMap.ofList counts

/-- Read the report of an object's fields, with the notes made on the way. -/
def ofFields (fields : List (String × Json)) (locations : Json) :
    Except Fault (Report × List Note) := do
  let statusLabels <- itemTexts (fieldOr "status_labels" noItems fields)
  let kindLabels <- itemTexts (fieldOr "kind_labels" noItems fields)
  let mutants <- readMutants statusLabels kindLabels (fieldOr "mutants" noItems fields)
  let records <- items locations
  let (locations, notes) <- readLocations mutants [] records
  let kills <- readKillCounts (fieldOr "test_case_kills" (.object []) fields)
  return ({ locations, mutants, statusLabels, kindLabels, kills }, notes)

/-- Read the dataset of a source page. -/
def ofJson : Json -> Except Fault (Report × List Note)
  | .object fields =>
      match Json.lookup? "locations" fields with
      | some locations => ofFields fields locations
      | none => .error (.defect .noLocations)
  | _ => .error (.defect .notObject)

end Report
end MutationViewer
