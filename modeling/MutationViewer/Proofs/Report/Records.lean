import Mathlib.Data.List.Forall2
import Mathlib.Data.List.Permutation
import MutationViewer.Proofs.Report.Coherence

/-!
# What a report keeps of its dataset

Ids may be values of any kind and are used as text, so records with different ids can come
to the same one.  Locations of one id are refused, while of several mutants the last
counts and stands where the first stood.  A report that is read from a dataset has a
location for every record, in order, and its lookups tell what the document tells.
-/

namespace MutationViewer

/-- What is read item by item is read from the items in order. -/
theorem Dataset.forall₂_of_mapM {First Second : Type} {read : First -> Except Fault Second}
    {values : List First} {results : List Second} (accepted : values.mapM read = .ok results) :
    List.Forall₂ (fun value result => read value = .ok result) values results := by
  induction values generalizing results with
  | nil =>
      cases accepted
      exact .nil
  | cons value values ih =>
      rw [List.mapM_cons] at accepted
      rcases bind_eq_ok_iff.mp accepted with ⟨result, first, accepted⟩
      rcases bind_eq_ok_iff.mp accepted with ⟨others, rest, accepted⟩
      cases accepted
      exact .cons first (ih rest)

namespace Report

open Dataset

/-- The record is an object with an id, which is used as text. -/
def CarriesId (record : Json) (id : String) : Prop :=
  ∃ fields value, record = .object fields ∧ Json.lookup? "id" fields = some value ∧
    id = value.asText

/-- The ids of the mutants as a dataset gives them.  In a list each record carries its id;
under the keys of an object stand records whose own ids count more than the keys. -/
def GivesIds : Json -> List String -> Prop
  | .object entries, ids => List.Forall₂ (fun entry id => ∃ own, entry.2 = .object own ∧
      id = (fieldOr "id" (.text entry.1) own).asText) entries ids
  | value, ids => ∃ records, items value = .ok records ∧ List.Forall₂ CarriesId records ids

theorem carriesId_of_readMutant {statusLabels kindLabels : List String} {record : Json}
    {mutant : Mutant} (accepted : readMutant statusLabels kindLabels record = .ok mutant) :
    CarriesId record mutant.id := by
  rcases bind_eq_ok_iff.mp accepted with ⟨mentioned, mentions, accepted⟩
  cases mentioned with
  | false => cases accepted
  | true =>
      cases record with
      | object fields =>
          rcases Option.isSome_iff_exists.mp (Except.ok.inj mentions) with ⟨id, found⟩
          rcases bind_eq_ok_iff.mp accepted with ⟨same, ok, accepted⟩
          cases ok
          rcases bind_eq_ok_iff.mp accepted with ⟨status, -, accepted⟩
          rcases bind_eq_ok_iff.mp accepted with ⟨kindGroup, -, accepted⟩
          rcases bind_eq_ok_iff.mp accepted with ⟨testCases, -, accepted⟩
          cases accepted
          exact ⟨fields, id, rfl, found, by simp [fieldOr, found]⟩
      | _ => cases accepted

/-- A record that is put together under a key carries its own id, and else the key. -/
theorem id_of_recordUnder {key id : String} {value record : Json}
    (accepted : recordUnder key value = .ok record) (carries : CarriesId record id) :
    ∃ own, value = .object own ∧ id = (fieldOr "id" (.text key) own).asText := by
  cases value with
  | object own =>
      cases accepted
      rcases carries with ⟨fields, value, sameFields, found, rfl⟩
      cases sameFields
      rw [Json.lookup?_cons, if_pos rfl, Option.some.injEq] at found
      exact ⟨own, rfl, by rw [← found]⟩
  | _ => cases accepted

theorem givesIds_of_carriesId {value : Json} {records : List Json} {ids : List String}
    (given : mutantRecords value = .ok records) (carried : List.Forall₂ CarriesId records ids) :
    GivesIds value ids := by
  cases value with
  | object entries =>
      have put := forall₂_of_mapM given
      change List.Forall₂ _ entries ids
      clear given
      induction put generalizing ids with
      | nil =>
          cases carried
          exact .nil
      | cons first rest ih =>
          cases carried with
          | cons firstId restIds => exact .cons (id_of_recordUnder first firstId) (ih restIds)
  | _ => exact ⟨records, given, carried⟩

/-! ## A report and its dataset -/

/-- The report tells what the fields of the dataset give: a location for every record, in
order, and no two of one id; the mutants under their own ids, in the order in which each id
is given first, and each as its last record gives it. -/
structure Mirrors (fields : List (String × Json)) (report : Report) : Prop where
  locations : ∃ value records, Json.lookup? "locations" fields = some value ∧
    items value = .ok records ∧ List.Forall₂ (Places report.mutants) records report.locations
  ids_nodup : (report.locations.map Location.id).Nodup
  own_ids : ∀ entry ∈ report.mutants.entries, entry.1 = entry.2.id
  mutants : ∃ records read, mutantRecords (fieldOr "mutants" noItems fields) = .ok records ∧
    List.Forall₂ (fun record mutant =>
      readMutant report.statusLabels report.kindLabels record = .ok mutant) records read ∧
    GivesIds (fieldOr "mutants" noItems fields) (read.map Mutant.id) ∧
    report.mutants.entries.map Prod.fst = (read.map Mutant.id).eraseDups ∧
    forall id, report.mutant? id = read.reverse.find? fun mutant => mutant.id == id

/-- The lookups tell what the document tells: an id stands for the one location that has it
and for its place, and other texts for none; a mutant belongs to the first location that
lists it; and the mutants of a location have just the ids that it lists. -/
structure LookupsAgree (report : Report) : Prop where
  location_at : forall (index : Nat) location, report.locations[index]? = some location ->
    report.location? location.id = some location ∧ report.position? location.id = some index
  elsewhere : forall text, (∀ location ∈ report.locations, location.id ≠ text) ->
    report.location? text = none ∧ report.position? text = none
  owner : forall mutantId, report.owner? mutantId =
    report.locations.find? fun location => location.mutantIds.contains mutantId
  listed : ∀ location ∈ report.locations,
    (report.mutantsOf location).map Mutant.id = location.mutantIds

theorem position?_eq_none {report : Report} {text : String}
    (unnamed : ∀ location ∈ report.locations, location.id ≠ text) :
    report.position? text = none := by
  rw [position?, Option.map_eq_none_iff, List.find?_eq_none]
  rintro ⟨location, place⟩ member same
  have stands := List.mk_mem_zipIdx_iff_getElem?.mp (List.mem_reverse.mp member)
  exact unnamed location (List.mem_of_getElem? stands) (by simpa using same)

theorem Coherent.lookupsAgree {report : Report} (coherent : report.Coherent) :
    report.LookupsAgree where
  location_at index location stands := by
    rcases List.getElem?_eq_some_iff.mp stands with ⟨inside, rfl⟩
    have split : report.locations =
        report.locations.take index ++ report.locations[index] ::
          report.locations.drop (index + 1) := by
      rw [← List.drop_eq_getElem_cons inside, List.take_append_drop]
    have placed := coherent.position?_of_split split
    rw [List.length_take, Nat.min_eq_left (Nat.le_of_lt inside)] at placed
    exact ⟨coherent.location?_of_mem (List.getElem_mem inside), placed⟩
  elsewhere text unnamed :=
    ⟨(coherent.location?_eq_none_iff text).mpr unnamed, position?_eq_none unnamed⟩
  owner mutantId := by
    unfold owner?
    cases first : report.locations.find? fun location =>
        location.mutantIds.contains mutantId with
    | none => rfl
    | some location => exact coherent.location?_of_mem (List.mem_of_find?_eq_some first)
  listed location member := coherent.map_id_mutantsOf member

theorem places_of_readLocations {mutants : OrderedMap Mutant} {records : List Json} :
    forall {seen : List String} {locations : List Location} {notes : List Note},
      readLocations mutants seen records = .ok (locations, notes) ->
      List.Forall₂ (Places mutants) records locations := by
  induction records with
  | nil =>
      intro seen locations notes accepted
      cases accepted
      exact .nil
  | cons record records ih =>
      intro seen locations notes accepted
      rcases bind_eq_ok_iff.mp accepted with ⟨⟨location, now⟩, head, accepted⟩
      rcases bind_eq_ok_iff.mp accepted with ⟨⟨others, later⟩, tail, accepted⟩
      cases accepted
      exact .cons (places_of_readLocation head).1 (ih tail)

/-- The mutants that are read are those of the records, and are kept under their ids. -/
theorem mutants_of_readMutants {statusLabels kindLabels : List String} {value : Json}
    {mutants : OrderedMap Mutant}
    (accepted : readMutants statusLabels kindLabels value = .ok mutants) :
    ∃ records read, mutantRecords value = .ok records ∧
      List.Forall₂ (fun record mutant => readMutant statusLabels kindLabels record = .ok mutant)
        records read ∧
      GivesIds value (read.map Mutant.id) ∧
      mutants.entries.map Prod.fst = (read.map Mutant.id).eraseDups ∧
      forall id, mutants.get? id = read.reverse.find? fun mutant => mutant.id == id := by
  rcases bind_eq_ok_iff.mp accepted with ⟨records, given, accepted⟩
  rcases bind_eq_ok_iff.mp accepted with ⟨read, readAll, accepted⟩
  cases accepted
  have each := forall₂_of_mapM readAll
  have carried : List.Forall₂ CarriesId records (read.map Mutant.id) := by
    rw [List.forall₂_map_right_iff]
    exact each.imp fun _ _ => carriesId_of_readMutant
  refine ⟨records, read, given, each, givesIds_of_carriesId given carried, ?_, ?_⟩
  · rw [OrderedMap.keys_ofList, List.map_map]
    rfl
  · intro id
    rw [OrderedMap.get?_ofList, ← List.map_reverse, List.find?_map, Option.map_map]
    exact Option.map_id'

/-- Whatever dataset is accepted, the report that is read tells what the dataset gives, and
its lookups tell what its document tells. -/
theorem mirrors_and_lookupsAgree_of_ofJson {data : Json} {report : Report} {notes : List Note}
    (accepted : ofJson data = .ok (report, notes)) :
    ∃ fields, data = .object fields ∧ report.Mirrors fields ∧ report.LookupsAgree := by
  have coherent := coherent_of_ofJson accepted
  rcases parts_of_ofJson accepted
    with ⟨fields, locations, records, rfl, found, itemsRead, mutantsRead, placed⟩
  refine ⟨fields, rfl, ?_, coherent.lookupsAgree⟩
  exact {
    locations := ⟨locations, records, found, itemsRead, places_of_readLocations placed⟩
    ids_nodup := coherent.ids_nodup
    own_ids := fun entry member => (coherent.mutant_id
      ((OrderedMap.get?_eq_some_iff _ _ _).mpr member)).symm
    mutants := mutants_of_readMutants mutantsRead }

/-- Three records of mutants come to two ids, the first of which is given again by the last
record; and the locations list known ids, repeated ids and ids of no mutant. -/
def collidingData : Json :=
  .object
    [("mutants", .list
        [.object [("id", .int 1), ("status", .text "alive")],
         .object [("id", .text "2")],
         .object [("id", .text "1"), ("status", .text "killed")]]),
     ("locations", .list
        [.object [("id", .int 7), ("mutants", .list [.text "9", .int 2, .text "2"])],
         .object [("id", .text "8"), ("mutants", .list [.text "1", .text "2", .int 1])]])]

def colliding : Report where
  locations := [⟨"7", ["2", "2"]⟩, ⟨"8", ["1", "2", "1"]⟩]
  mutants := .ofList
    [("1", sampleMutant "1" "killed" ""), ("2", sampleMutant "2" "unknown" "")]
  statusLabels := []
  kindLabels := []
  kills := .empty

/-- The last record of an id counts, and a mutant that two locations list belongs to the
first of them. -/
theorem mirrors_and_lookupsAgree_on_colliding :
    ofJson collidingData = .ok (colliding, [.droppedMutant "7" "9"]) ∧
      (∃ fields, collidingData = .object fields ∧ colliding.Mirrors fields ∧
        colliding.LookupsAgree) ∧
      (colliding.mutant? "1").map Mutant.status = some "killed" ∧
      colliding.owner? "2" = some ⟨"7", ["2", "2"]⟩ :=
  have accepted : ofJson collidingData = .ok (colliding, [.droppedMutant "7" "9"]) := by cbv
  ⟨accepted, mirrors_and_lookupsAgree_of_ofJson accepted, rfl, rfl⟩

end Report
end MutationViewer
