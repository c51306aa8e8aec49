import Mathlib.Data.List.Induction
import Mathlib.Data.List.Nodup
import MutationViewer.Report.OfJson

/-!
# Reports whose parts agree

A report could be put together from locations and mutants that contradict each
other: two locations under one id, a mutant under another id than its own, a
location that lists an unknown mutant.  A report that is read from a dataset
has none of this, and its lookups then agree with its document.  What is
proved of selections rests on these facts alone, not on how a dataset is read.
-/

namespace MutationViewer

/-- A reader that goes on after a first part succeeds only if both parts do. -/
theorem Dataset.bind_eq_ok_iff {First Second : Type} {first : Except Dataset.Fault First}
    {next : First -> Except Dataset.Fault Second} {result : Second} :
    (first >>= next) = .ok result ↔ ∃ value, first = .ok value ∧ next value = .ok result := by
  cases first with
  | error fault => simp [bind, Except.bind]
  | ok value => simp [bind, Except.bind]

theorem OrderedMap.ofList_concat {Value : Type} (pairs : List (String × Value))
    (pair : String × Value) : ofList (pairs ++ [pair]) = (ofList pairs).put pair.1 pair.2 := by
  simp [ofList]

/-- The value that was put last under a key is the one that stands there. -/
theorem OrderedMap.get?_ofList {Value : Type} (pairs : List (String × Value)) (key : String) :
    (ofList pairs).get? key =
      (pairs.reverse.find? fun pair => pair.1 == key).map Prod.snd := by
  induction pairs using List.reverseRecOn with
  | nil => rfl
  | append_singleton pairs pair ih =>
      rw [ofList_concat, get?_put, ih, List.reverse_concat]
      by_cases same : pair.1 = key
      · rw [if_pos same, List.find?_cons_of_pos (by simpa using same), Option.map_some]
      · rw [if_neg same, List.find?_cons_of_neg (by simpa using same)]

/-- Keys stand in the order in which each was put first. -/
theorem OrderedMap.keys_ofList {Value : Type} (pairs : List (String × Value)) :
    (ofList pairs).entries.map Prod.fst = (pairs.map Prod.fst).eraseDups := by
  induction pairs using List.reverseRecOn with
  | nil => rfl
  | append_singleton pairs pair ih =>
      rw [ofList_concat, List.map_append, List.eraseDups_append]
      change (putEntry pair.1 pair.2 (ofList pairs).entries).map Prod.fst = _
      rw [keys_putEntry, ih]
      by_cases again : pair.1 ∈ pairs.map Prod.fst
      · rw [if_pos (List.mem_eraseDups.mpr again)]
        simp [List.removeAll, again]
      · rw [if_neg fun found => again (List.mem_eraseDups.mp found)]
        simp [List.removeAll, again, List.eraseDups_cons]

theorem OrderedMap.mem_of_get?_ofList {Value : Type} {pairs : List (String × Value)}
    {key : String} {value : Value} (found : (ofList pairs).get? key = some value) :
    (key, value) ∈ pairs := by
  rw [get?_ofList] at found
  rcases Option.map_eq_some_iff.mp found with ⟨pair, last, rfl⟩
  have same : pair.1 = key := by simpa using List.find?_some last
  subst same
  exact List.mem_reverse.mp (List.mem_of_find?_eq_some last)

namespace Report

theorem mutant_id_of_readMutants {statusLabels kindLabels : List String} {value : Json}
    {mutants : OrderedMap Mutant}
    (accepted : readMutants statusLabels kindLabels value = .ok mutants)
    {id : String} {mutant : Mutant} (found : mutants.get? id = some mutant) : mutant.id = id := by
  rcases Dataset.bind_eq_ok_iff.mp accepted with ⟨records, -, accepted⟩
  rcases Dataset.bind_eq_ok_iff.mp accepted with ⟨read, -, accepted⟩
  cases accepted
  rcases List.mem_map.mp (OrderedMap.mem_of_get?_ofList found) with ⟨listed, -, pair⟩
  cases pair
  rfl

/-- A location as a record gives it: under the record's id, with the known ones of the ids
that the record lists. -/
def Places (mutants : OrderedMap Mutant) (record : Json) (location : Location) : Prop :=
  ∃ fields id listed, record = .object fields ∧ Json.lookup? "id" fields = some id ∧
    location.id = id.asText ∧
    Dataset.itemTexts (Dataset.fieldOr "mutants" Dataset.noItems fields) = .ok listed ∧
    location.mutantIds = listed.filter mutants.contains

/-- A location that is read is what its record gives, and its id is new. -/
theorem places_of_readLocation {mutants : OrderedMap Mutant} {seen : List String} {record : Json}
    {location : Location} {notes : List Note}
    (accepted : readLocation mutants seen record = .ok (location, notes)) :
    Places mutants record location ∧ location.id ∉ seen := by
  rcases Dataset.bind_eq_ok_iff.mp accepted with ⟨mentioned, mentions, accepted⟩
  cases mentioned with
  | false => cases accepted
  | true =>
      cases record with
      | object fields =>
          rcases Option.isSome_iff_exists.mp (Except.ok.inj mentions) with ⟨id, found⟩
          simp only [if_true, Dataset.fieldOr, found, Option.getD_some] at accepted
          split at accepted
          · cases accepted
          · next fresh =>
              rcases Dataset.bind_eq_ok_iff.mp accepted with ⟨listed, read, accepted⟩
              cases accepted
              exact ⟨⟨fields, id, listed, rfl, found, rfl, read, rfl⟩, by simpa using fresh⟩
      | _ => cases accepted

/-- A location that is read has a new id and lists known mutants only. -/
theorem readLocation_spec {mutants : OrderedMap Mutant} {seen : List String} {record : Json}
    {location : Location} {notes : List Note}
    (accepted : readLocation mutants seen record = .ok (location, notes)) :
    location.id ∉ seen ∧ ∀ id ∈ location.mutantIds, (mutants.get? id).isSome := by
  rcases places_of_readLocation accepted with ⟨⟨fields, id, listed, -, -, -, -, kept⟩, fresh⟩
  refine ⟨fresh, fun id member => ?_⟩
  rw [kept] at member
  exact (List.mem_filter.mp member).2

/-- The locations that are read have different ids, all of them new. -/
theorem readLocations_spec {mutants : OrderedMap Mutant} {records : List Json} :
    forall {seen : List String} {locations : List Location} {notes : List Note},
      readLocations mutants seen records = .ok (locations, notes) ->
      (locations.map Location.id).Nodup ∧ ∀ location ∈ locations,
        location.id ∉ seen ∧ ∀ id ∈ location.mutantIds, (mutants.get? id).isSome := by
  induction records with
  | nil =>
      intro seen locations notes accepted
      cases accepted
      exact ⟨List.nodup_nil, by simp⟩
  | cons record records ih =>
      intro seen locations notes accepted
      rcases Dataset.bind_eq_ok_iff.mp accepted with ⟨⟨location, now⟩, head, accepted⟩
      rcases Dataset.bind_eq_ok_iff.mp accepted with ⟨⟨others, later⟩, tail, accepted⟩
      cases accepted
      rcases readLocation_spec head with ⟨fresh, known⟩
      rcases ih tail with ⟨nodup, rest⟩
      refine ⟨List.nodup_cons.mpr ⟨fun repeated => ?_, nodup⟩, fun other member => ?_⟩
      · rcases List.mem_map.mp repeated with ⟨other, member, same⟩
        exact (rest other member).1 (same ▸ List.mem_cons_self)
      · rcases List.mem_cons.mp member with rfl | later
        · exact ⟨fresh, known⟩
        · exact ⟨fun before => (rest other later).1 (List.mem_cons_of_mem _ before),
            (rest other later).2⟩

/-! ## Coherence -/

/-- The parts of a report agree. -/
structure Coherent (report : Report) : Prop where
  ids_nodup : (report.locations.map Location.id).Nodup
  mutant_id : forall {id mutant}, report.mutant? id = some mutant -> mutant.id = id
  listed_known : ∀ location ∈ report.locations, ∀ id ∈ location.mutantIds,
    (report.mutant? id).isSome

/-- What the mutants and the locations of an accepted dataset were read from. -/
theorem parts_of_ofJson {data : Json} {report : Report} {notes : List Note}
    (accepted : ofJson data = .ok (report, notes)) :
    ∃ fields locations records, data = .object fields ∧
      Json.lookup? "locations" fields = some locations ∧
      Dataset.items locations = .ok records ∧
      readMutants report.statusLabels report.kindLabels
        (Dataset.fieldOr "mutants" Dataset.noItems fields) = .ok report.mutants ∧
      readLocations report.mutants [] records = .ok (report.locations, notes) := by
  cases data with
  | object fields =>
      simp only [ofJson] at accepted
      split at accepted
      · next locations found =>
          rcases Dataset.bind_eq_ok_iff.mp accepted with ⟨statusLabels, -, accepted⟩
          rcases Dataset.bind_eq_ok_iff.mp accepted with ⟨kindLabels, -, accepted⟩
          rcases Dataset.bind_eq_ok_iff.mp accepted with ⟨mutants, mutantsRead, accepted⟩
          rcases Dataset.bind_eq_ok_iff.mp accepted with ⟨records, itemsRead, accepted⟩
          obtain ⟨⟨placed, dropped⟩, locationsRead, accepted⟩ :=
            Dataset.bind_eq_ok_iff.mp accepted
          rcases Dataset.bind_eq_ok_iff.mp accepted with ⟨kills, -, accepted⟩
          cases accepted
          exact ⟨fields, locations, records, rfl, found, itemsRead, mutantsRead, locationsRead⟩
      · cases accepted
  | _ => cases accepted

/-- Every report that is read from a dataset is coherent. -/
theorem coherent_of_ofJson {data : Json} {report : Report} {notes : List Note}
    (accepted : ofJson data = .ok (report, notes)) : report.Coherent := by
  rcases parts_of_ofJson accepted with ⟨fields, locations, records, -, -, -, mutantsRead, placed⟩
  rcases readLocations_spec placed with ⟨nodup, each⟩
  exact {
    ids_nodup := nodup
    mutant_id := mutant_id_of_readMutants mutantsRead
    listed_known := fun location member => (each location member).2 }

namespace Coherent

variable {report : Report}

theorem location?_of_mem (coherent : report.Coherent) {location : Location}
    (member : location ∈ report.locations) : report.location? location.id = some location := by
  cases found : report.location? location.id with
  | none =>
      have missing := List.find?_eq_none.mp found location (List.mem_reverse.mpr member)
      simp at missing
  | some other =>
      have same := List.inj_on_of_nodup_map coherent.ids_nodup (location?_mem found) member
        (location?_id found)
      rw [same]

theorem location?_eq_none_iff (coherent : report.Coherent) (id : String) :
    report.location? id = none ↔ ∀ location ∈ report.locations, location.id ≠ id := by
  constructor
  · intro missing location member same
    have found := coherent.location?_of_mem member
    rw [same, missing] at found
    cases found
  · intro unnamed
    apply Option.eq_none_iff_forall_ne_some.mpr
    intro location found
    exact unnamed location (location?_mem found) (location?_id found)

theorem owner?_spec (coherent : report.Coherent) {id : String} {location : Location}
    (owned : report.owner? id = some location) :
    location ∈ report.locations ∧ id ∈ location.mutantIds := by
  rcases Option.bind_eq_some_iff.mp owned with ⟨first, found, known⟩
  have member := List.mem_of_find?_eq_some found
  rw [coherent.location?_of_mem member, Option.some.injEq] at known
  subst known
  exact ⟨member, by simpa using List.find?_some found⟩

theorem mem_mutantsOf_iff (coherent : report.Coherent) (location : Location) (mutant : Mutant) :
    mutant ∈ report.mutantsOf location ↔
      mutant.id ∈ location.mutantIds ∧ report.mutant? mutant.id = some mutant := by
  constructor
  · intro member
    rcases List.mem_filterMap.mp member with ⟨id, listed, found⟩
    have same := coherent.mutant_id found
    subst same
    exact ⟨listed, found⟩
  · rintro ⟨listed, found⟩
    exact List.mem_filterMap.mpr ⟨mutant.id, listed, found⟩

theorem map_id_mutantsOf (coherent : report.Coherent) {location : Location}
    (member : location ∈ report.locations) :
    (report.mutantsOf location).map Mutant.id = location.mutantIds := by
  have known := coherent.listed_known location member
  unfold mutantsOf
  generalize location.mutantIds = listed at known ⊢
  induction listed with
  | nil => rfl
  | cons id ids ih =>
      rcases Option.isSome_iff_exists.mp (known id List.mem_cons_self) with ⟨mutant, found⟩
      rw [List.filterMap_cons_some found, List.map_cons, coherent.mutant_id found,
        ih fun other later => known other (List.mem_cons_of_mem _ later)]

theorem position?_of_split (coherent : report.Coherent)
    {before after : List Location} {location : Location}
    (split : report.locations = before ++ location :: after) :
    report.position? location.id = some before.length := by
  have here : report.locations[before.length]? = some location := by simp [split]
  unfold position?
  rw [Option.map_eq_some_iff]
  cases hit : report.locations.zipIdx.reverse.find? fun placed => placed.1.id == location.id with
  | none =>
      have placed : (location, before.length) ∈ report.locations.zipIdx.reverse :=
        List.mem_reverse.mpr (List.mk_mem_zipIdx_iff_getElem?.mpr here)
      have missed := List.find?_eq_none.mp hit _ placed
      simp at missed
  | some placed =>
      rcases placed with ⟨other, place⟩
      have there := List.mk_mem_zipIdx_iff_getElem?.mp
        (List.mem_reverse.mp (List.mem_of_find?_eq_some hit))
      have sameId : other.id = location.id := by simpa using List.find?_some hit
      refine ⟨_, rfl, ?_⟩
      have inside : before.length < (report.locations.map Location.id).length := by simp [split]
      have sameIds : (report.locations.map Location.id)[before.length]? =
          (report.locations.map Location.id)[place]? := by
        rw [List.getElem?_map, List.getElem?_map, here, there, Option.map_some, Option.map_some,
          sameId]
      exact ((List.getElem?_inj inside coherent.ids_nodup).mp sameIds).symm

end Coherent

/-! ## A small report -/

/-- The mutants and locations of a short source: the first location lists two of
the mutants, the second none and the third the remaining one. -/
def sampleData : Json :=
  .object
    [("mutants", .list
        [.object [("id", .text "M1"), ("status", .text "alive"), ("kind", .text "ror")],
         .object [("id", .text "M2"), ("status", .text "killed"), ("kind", .text "aor")],
         .object [("id", .text "M3"), ("status", .text "alive"), ("kind", .text "aor")]]),
     ("locations", .list
        [.object [("id", .text "L1"), ("mutants", .list [.text "M1", .text "M2"])],
         .object [("id", .text "L2")],
         .object [("id", .text "L3"), ("mutants", .list [.text "M3"])]])]

def sampleMutant (id status kind : String) : Mutant where
  id := id
  status := status
  kind := kind
  kindGroup := kind
  replaced := ""
  replacement := ""
  metadata := ""
  testCases := []

def sample : Report where
  locations := [⟨"L1", ["M1", "M2"]⟩, ⟨"L2", []⟩, ⟨"L3", ["M3"]⟩]
  mutants := .ofList
    [("M1", sampleMutant "M1" "alive" "ror"),
     ("M2", sampleMutant "M2" "killed" "aor"),
     ("M3", sampleMutant "M3" "alive" "aor")]
  statusLabels := []
  kindLabels := []
  kills := .empty

theorem sample_accepted : ofJson sampleData = .ok (sample, []) := rfl

end Report
end MutationViewer
