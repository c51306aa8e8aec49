import MutationViewer.Proofs.Report.Records

/-!
# Which datasets are accepted

A dataset of the documented shape has lists and objects where they belong, and any value
anywhere else.  Here it is told from the values alone whether such a dataset is accepted: every
record needs an id, labels are texts or indices into the list of their kind, locations have
different ids, and kill counts are numbers.  Neither the order in which the reader goes through
the dataset nor what it makes of it plays a part.
-/

namespace MutationViewer
namespace Dataset

def Succeeds {Failure Value : Type} (result : Except Failure Value) : Prop :=
  ∃ value, result = .ok value

section

variable {Failure First Second : Type} {first : Except Failure First}
  {next : First -> Except Failure Second}

theorem succeeds_ok (value : First) : Succeeds (.ok value : Except Failure First) :=
  ⟨value, rfl⟩

theorem not_succeeds_error (failure : Failure) :
    ¬ Succeeds (.error failure : Except Failure First) := by
  rintro ⟨value, impossible⟩
  cases impossible

/-- Of two readers the second of which does not depend on what the first one reads, both have to
succeed. -/
theorem succeeds_bind_iff {condition : Prop}
    (rest : forall value, Succeeds (next value) ↔ condition) :
    Succeeds (first >>= next) ↔ Succeeds first ∧ condition := by
  cases first with
  | error failure =>
      exact iff_of_false (not_succeeds_error _) fun both => not_succeeds_error _ both.1
  | ok value => exact (rest value).trans (iff_and_self.mpr fun _ => succeeds_ok value)

theorem succeeds_bind_iff_of_succeeds (rest : forall value, Succeeds (next value)) :
    Succeeds (first >>= next) ↔ Succeeds first := by
  rw [succeeds_bind_iff fun value => iff_true_intro (rest value), and_true]

theorem succeeds_mapM_iff {read : First -> Except Failure Second} (values : List First) :
    Succeeds (values.mapM read) ↔ ∀ value ∈ values, Succeeds (read value) := by
  induction values with
  | nil => exact iff_of_true (succeeds_ok _) (by simp)
  | cons value values ih =>
      rw [List.mapM_cons, List.forall_mem_cons, ← ih]
      apply succeeds_bind_iff
      intro result
      exact succeeds_bind_iff_of_succeeds fun others => succeeds_ok _

end

/-! ## The documented shape -/

/-- What stands under a name, if anything does, is a list. -/
def OptionalList (name : String) (fields : List (String × Json)) : Prop :=
  forall value, Json.lookup? name fields = some value -> ∃ items, value = .list items

/-- The items of the list under a name; none if nothing stands there. -/
def itemsUnder (name : String) (fields : List (String × Json)) : List Json :=
  match Json.lookup? name fields with
  | some (.list items) => items
  | _ => []

/-- The entries of the object under a name; none if nothing stands there. -/
def entriesUnder (name : String) (fields : List (String × Json)) : List (String × Json) :=
  match Json.lookup? name fields with
  | some (.object entries) => entries
  | _ => []

/-- The value is an object in which a list may stand under the name. -/
def RecordWith (name : String) (value : Json) : Prop :=
  ∃ fields, value = .object fields ∧ OptionalList name fields

/-- The documented shape of a dataset: a list of locations, and optionally mutants as a list or
as an object, two lists of labels and an object of kill counts.  Locations may have a list of
mutants, and mutants a list of test cases.  All other values are free. -/
structure Documented (fields : List (String × Json)) : Prop where
  locations : ∃ records, Json.lookup? "locations" fields = some (.list records) ∧
    ∀ record ∈ records, RecordWith "mutants" record
  mutants : forall value, Json.lookup? "mutants" fields = some value ->
    (∃ records, value = .list records ∧ ∀ record ∈ records, RecordWith "test_cases" record) ∨
    (∃ entries, value = .object entries ∧ ∀ entry ∈ entries, RecordWith "test_cases" entry.2)
  statusLabels : OptionalList "status_labels" fields
  kindLabels : OptionalList "kind_labels" fields
  kills : forall value, Json.lookup? "test_case_kills" fields = some value ->
    ∃ entries, value = .object entries

section

variable {name : String} {fields : List (String × Json)}

theorem OptionalList.fieldOr_eq (optional : OptionalList name fields) :
    fieldOr name noItems fields = .list (itemsUnder name fields) := by
  unfold fieldOr itemsUnder
  cases found : Json.lookup? name fields with
  | none => rfl
  | some value =>
      rcases optional value found with ⟨items, rfl⟩
      rfl

theorem OptionalList.itemTexts_eq (optional : OptionalList name fields) :
    itemTexts (fieldOr name noItems fields) = .ok ((itemsUnder name fields).map Json.asText) := by
  rw [optional.fieldOr_eq, itemTexts_list]

end

/-- The mutants of a dataset give a record: its fields, and the key if it stands under one. -/
inductive GivesMutant : Json -> Option String -> List (String × Json) -> Prop where
  | listed {records : List Json} {own : List (String × Json)} (member : .object own ∈ records) :
      GivesMutant (.list records) none own
  | keyed {entries : List (String × Json)} {key : String} {own : List (String × Json)}
      (member : (key, .object own) ∈ entries) : GivesMutant (.object entries) (some key) own

/-- A text names a label, and so does an index into that many labels.  A boolean does not. -/
def NamesLabel (count : Nat) : Json -> Prop
  | .text _ => True
  | .int index => 0 ≤ index ∧ index < count
  | _ => False

/-- The two labels of a mutant, where they are given, name one of the labels of their kind. -/
structure LabelsFit (statuses kinds : Nat) (own : List (String × Json)) : Prop where
  status : forall value, Json.lookup? "status" own = some value -> NamesLabel statuses value
  kindGroup : forall value, Json.lookup? "kind_group" own = some value -> NamesLabel kinds value

/-- Every mutant has an id, a key counting as one, and labels that fit. -/
structure MutantsFit (fields : List (String × Json)) : Prop where
  ids : forall key own, GivesMutant (fieldOr "mutants" noItems fields) key own ->
    key.isSome ∨ (Json.lookup? "id" own).isSome
  labels : forall key own, GivesMutant (fieldOr "mutants" noItems fields) key own ->
    LabelsFit (itemsUnder "status_labels" fields).length
      (itemsUnder "kind_labels" fields).length own

def idText? : Json -> Option String
  | .object own => (Json.lookup? "id" own).map Json.asText
  | _ => none

/-- Every location has an id, and no two ids are the same as texts. -/
structure LocationsFit (records : List Json) : Prop where
  ids : ∀ record ∈ records, (idText? record).isSome
  distinct : (records.map idText?).Nodup

/-- Mutants and locations fit, and kill counts are whole numbers or can be used as such. -/
structure Acceptable (fields : List (String × Json)) : Prop where
  mutants : MutantsFit fields
  locations : LocationsFit (itemsUnder "locations" fields)
  counts : ∀ entry ∈ entriesUnder "test_case_kills" fields, Succeeds (Numeral.toInt entry.2)

end Dataset

namespace Report

open Dataset

/-! ## Mutants, locations and kill counts -/

theorem succeeds_readLabel_iff (kind : LabelKind) (labels : List String) (value : Json) :
    Succeeds (readLabel kind labels value) ↔ NamesLabel labels.length value := by
  cases value with
  | text text => exact iff_of_true (succeeds_ok text) trivial
  | int index =>
      simp only [readLabel, NamesLabel]
      by_cases natural : 0 ≤ index
      · rw [if_pos natural]
        by_cases inside : index < labels.length
        · have place : index.toNat < labels.length := by omega
          rw [List.getElem?_eq_getElem place]
          exact iff_of_true (succeeds_ok _) ⟨natural, inside⟩
        · have beyond : labels.length ≤ index.toNat := by omega
          rw [List.getElem?_eq_none beyond]
          exact iff_of_false (not_succeeds_error _) fun both => inside both.2
      · rw [if_neg natural]
        exact iff_of_false (not_succeeds_error _) fun both => natural both.1
  | _ => exact iff_of_false (not_succeeds_error _) id

/-- A field with a text as its default names a label if it does so where it is given. -/
theorem namesLabel_fieldOr_iff (count : Nat) (name default : String)
    (fields : List (String × Json)) :
    NamesLabel count (fieldOr name (.text default) fields) ↔
      forall value, Json.lookup? name fields = some value -> NamesLabel count value := by
  unfold fieldOr
  cases Json.lookup? name fields with
  | none => simp [NamesLabel]
  | some value => simp

theorem succeeds_mutantOfFields_iff {statusLabels kindLabels : List String} {id : Json}
    {own : List (String × Json)} (optional : OptionalList "test_cases" own) :
    Succeeds (mutantOfFields statusLabels kindLabels id own) ↔
      LabelsFit statusLabels.length kindLabels.length own := by
  unfold mutantOfFields
  rw [optional.itemTexts_eq]
  refine (succeeds_bind_iff fun status =>
    succeeds_bind_iff_of_succeeds fun kindGroup => succeeds_ok _).trans ?_
  rw [succeeds_readLabel_iff, succeeds_readLabel_iff, namesLabel_fieldOr_iff,
    namesLabel_fieldOr_iff]
  exact ⟨fun fit => ⟨fit.1, fit.2⟩, fun fit => ⟨fit.status, fit.kindGroup⟩⟩

/-- The fields of a mutant's record once the key stands for an id that is not given. -/
def completed : Option String -> List (String × Json) -> List (String × Json)
  | none, own => own
  | some key, own => ("id", fieldOr "id" (.text key) own) ::
      own.filter fun field => !(field.1 == "id")

theorem isSome_id_completed_iff (key : Option String) (own : List (String × Json)) :
    (Json.lookup? "id" (completed key own)).isSome ↔
      key.isSome ∨ (Json.lookup? "id" own).isSome := by
  cases key with
  | none => simp [completed]
  | some key => simp [completed, Json.lookup?_cons]

theorem lookup?_completed {name : String} (other : name ≠ "id") (key : Option String)
    (own : List (String × Json)) :
    Json.lookup? name (completed key own) = Json.lookup? name own := by
  cases key with
  | none => rfl
  | some key =>
      rw [completed, Json.lookup?_cons, if_neg (Ne.symm other)]
      unfold Json.lookup?
      rw [List.find?_filter]
      congr 2
      funext field
      by_cases same : field.1 = name <;> simp [same, other]

theorem optionalList_completed {name : String} (other : name ≠ "id") (key : Option String)
    {own : List (String × Json)} (optional : OptionalList name own) :
    OptionalList name (completed key own) := by
  intro value found
  rw [lookup?_completed other] at found
  exact optional value found

theorem mem_iff_of_mapM {First Second : Type} {read : First -> Except Fault Second}
    {values : List First} {results : List Second} (accepted : values.mapM read = .ok results)
    (result : Second) : result ∈ results ↔ ∃ value ∈ values, read value = .ok result := by
  have each := forall₂_of_mapM accepted
  clear accepted
  induction each with
  | nil => simp
  | cons first _ ih => simp [ih, first, eq_comm]

theorem recordUnder_eq_object_iff (key : String) (value : Json) (own : List (String × Json)) :
    recordUnder key value = .ok (.object own) ↔
      ∃ raw, value = .object raw ∧ own = completed (some key) raw := by
  cases value with
  | object raw => simp [recordUnder, completed, eq_comm]
  | _ => simp [recordUnder]

/-- The reader takes the records that the dataset gives, each with its key as far as it needs
one. -/
theorem object_mem_mutantRecords_iff {value : Json} {records : List Json}
    (given : mutantRecords value = .ok records) (own : List (String × Json)) :
    .object own ∈ records ↔ ∃ key raw, GivesMutant value key raw ∧ own = completed key raw := by
  cases value with
  | object entries =>
      rw [mem_iff_of_mapM given]
      constructor
      · rintro ⟨⟨key, value⟩, member, read⟩
        rcases (recordUnder_eq_object_iff key value own).mp read with ⟨raw, rfl, completes⟩
        exact ⟨some key, raw, .keyed member, completes⟩
      · rintro ⟨_, raw, gives, completes⟩
        cases gives with
        | keyed member =>
            exact ⟨_, member, (recordUnder_eq_object_iff _ _ own).mpr ⟨raw, rfl, completes⟩⟩
  | list items =>
      cases given
      constructor
      · exact fun member => ⟨none, own, .listed member, rfl⟩
      · rintro ⟨_, raw, ⟨member⟩, rfl⟩
        exact member
  | text text =>
      cases given
      refine iff_of_false (by simp) ?_
      rintro ⟨key, raw, ⟨⟩, -⟩
  | _ => cases given

theorem exists_mutantRecords {fields : List (String × Json)} (documented : Documented fields) :
    ∃ records, mutantRecords (fieldOr "mutants" noItems fields) = .ok records ∧
      ∀ record ∈ records, RecordWith "test_cases" record := by
  unfold fieldOr
  cases found : Json.lookup? "mutants" fields with
  | none => exact ⟨[], rfl, by simp⟩
  | some value =>
      rcases documented.mutants value found with ⟨records, rfl, shaped⟩ | ⟨entries, rfl, shaped⟩
      · exact ⟨records, rfl, shaped⟩
      · have put : Succeeds (entries.mapM fun entry => recordUnder entry.1 entry.2) := by
          rw [succeeds_mapM_iff]
          intro entry member
          rcases shaped entry member with ⟨own, same, -⟩
          rw [same]
          exact succeeds_ok _
        rcases put with ⟨records, given⟩
        refine ⟨records, given, fun record member => ?_⟩
        rcases (mem_iff_of_mapM given record).mp member with ⟨⟨key, value⟩, inside, read⟩
        rcases shaped _ inside with ⟨own, same, optional⟩
        subst same
        cases read
        exact ⟨_, rfl, optionalList_completed (by decide) (some key) optional⟩

section

variable {statusLabels kindLabels : List String}

theorem readMutant_object (own : List (String × Json)) :
    readMutant statusLabels kindLabels (.object own) =
      if (Json.lookup? "id" own).isSome then
        mutantOfFields statusLabels kindLabels (fieldOr "id" .null own) own
      else .error (.defect (.mutantWithoutId (.object own))) := rfl

theorem succeeds_readMutant_iff {own : List (String × Json)}
    (optional : OptionalList "test_cases" own) :
    Succeeds (readMutant statusLabels kindLabels (.object own)) ↔
      (Json.lookup? "id" own).isSome ∧ LabelsFit statusLabels.length kindLabels.length own := by
  rw [readMutant_object]
  by_cases given : (Json.lookup? "id" own).isSome
  · rw [if_pos given, succeeds_mutantOfFields_iff optional]
    exact (and_iff_right given).symm
  · rw [if_neg given]
    exact iff_of_false (not_succeeds_error _) fun both => given both.1

theorem labelsFit_completed_iff {statuses kinds : Nat} (key : Option String)
    (own : List (String × Json)) :
    LabelsFit statuses kinds (completed key own) ↔ LabelsFit statuses kinds own := by
  have status : Json.lookup? "status" (completed key own) = Json.lookup? "status" own :=
    lookup?_completed (by decide) key own
  have kindGroup : Json.lookup? "kind_group" (completed key own) =
      Json.lookup? "kind_group" own := lookup?_completed (by decide) key own
  constructor <;> rintro ⟨statusFits, kindGroupFits⟩
  · exact ⟨status ▸ statusFits, kindGroup ▸ kindGroupFits⟩
  · exact ⟨status.symm ▸ statusFits, kindGroup.symm ▸ kindGroupFits⟩

end

/-- What holds of every record that is read holds of every one that is given. -/
theorem forall_mem_mutantRecords_iff {value : Json} {records : List Json}
    (given : mutantRecords value = .ok records)
    (shaped : ∀ record ∈ records, RecordWith "test_cases" record) {condition : Json -> Prop} :
    (∀ record ∈ records, condition record) ↔
      forall key own, GivesMutant value key own -> condition (.object (completed key own)) := by
  constructor
  · intro each key own gives
    exact each _ ((object_mem_mutantRecords_iff given _).mpr ⟨key, own, gives, rfl⟩)
  · intro each record member
    rcases shaped record member with ⟨own, rfl, -⟩
    rcases (object_mem_mutantRecords_iff given own).mp member with ⟨key, raw, gives, rfl⟩
    exact each key raw gives

/-- The labels that the reader uses are as many as the items of their lists. -/
theorem succeeds_readMutants_iff {fields : List (String × Json)} (documented : Documented fields) :
    Succeeds (readMutants ((itemsUnder "status_labels" fields).map Json.asText)
      ((itemsUnder "kind_labels" fields).map Json.asText) (fieldOr "mutants" noItems fields)) ↔
      MutantsFit fields := by
  rcases exists_mutantRecords documented with ⟨records, given, shaped⟩
  have fits : forall key own, GivesMutant (fieldOr "mutants" noItems fields) key own ->
      (Succeeds (readMutant ((itemsUnder "status_labels" fields).map Json.asText)
        ((itemsUnder "kind_labels" fields).map Json.asText) (.object (completed key own))) ↔
        (key.isSome ∨ (Json.lookup? "id" own).isSome) ∧
          LabelsFit (itemsUnder "status_labels" fields).length
            (itemsUnder "kind_labels" fields).length own) := by
    intro key own gives
    rcases shaped _ ((object_mem_mutantRecords_iff given _).mpr ⟨key, own, gives, rfl⟩)
      with ⟨_, ⟨⟩, optional⟩
    rw [succeeds_readMutant_iff optional, isSome_id_completed_iff, labelsFit_completed_iff,
      List.length_map, List.length_map]
  unfold readMutants
  rw [given]
  refine (succeeds_bind_iff_of_succeeds fun mutants => succeeds_ok _).trans ?_
  rw [succeeds_mapM_iff, forall_mem_mutantRecords_iff given shaped]
  constructor
  · intro each
    exact {
      ids := fun key own gives => ((fits key own gives).mp (each key own gives)).1
      labels := fun key own gives => ((fits key own gives).mp (each key own gives)).2 }
  · intro fit key own gives
    exact (fits key own gives).mpr ⟨fit.ids key own gives, fit.labels key own gives⟩

section

variable {mutants : OrderedMap Mutant} {seen : List String} {own : List (String × Json)}

theorem readLocation_of_no_id (missing : Json.lookup? "id" own = none) :
    readLocation mutants seen (.object own) =
      .error (.defect (.locationWithoutId (.object own))) := by
  unfold readLocation
  simp only [mentions, missing]
  rfl

/-- Of a location with an id only the id is tested; what it lists is taken as it comes. -/
theorem readLocation_of_id (optional : OptionalList "mutants" own) {id : Json}
    (found : Json.lookup? "id" own = some id) :
    readLocation mutants seen (.object own) =
      if seen.contains id.asText then .error (.defect (.duplicateLocation id.asText))
      else .ok (⟨id.asText, ((itemsUnder "mutants" own).map Json.asText).filter mutants.contains⟩,
        droppedNotes mutants id.asText ((itemsUnder "mutants" own).map Json.asText)) := by
  unfold readLocation
  simp only [mentions, found, fieldOr, Option.getD_some]
  rw [← fieldOr, optional.itemTexts_eq]
  rfl

end

theorem locationsFit_cons_iff (record : Json) (records : List Json) :
    LocationsFit (record :: records) ↔ (idText? record).isSome ∧
      idText? record ∉ records.map idText? ∧ LocationsFit records := by
  constructor
  · rintro ⟨ids, distinct⟩
    rw [List.map_cons, List.nodup_cons] at distinct
    exact ⟨ids record List.mem_cons_self, distinct.1,
      fun other member => ids other (List.mem_cons_of_mem _ member), distinct.2⟩
  · rintro ⟨id, fresh, ids, distinct⟩
    exact ⟨List.forall_mem_cons.mpr ⟨id, ids⟩, List.nodup_cons.mpr ⟨fresh, distinct⟩⟩

theorem succeeds_readLocations_iff {mutants : OrderedMap Mutant} {records : List Json} :
    forall {seen : List String}, (∀ record ∈ records, RecordWith "mutants" record) ->
      (Succeeds (readLocations mutants seen records) ↔
        LocationsFit records ∧ ∀ id ∈ seen, some id ∉ records.map idText?) := by
  -- the ids seen so far grow with each location, so they stay general in the induction
  induction records with
  | nil => exact fun {seen} _ => iff_of_true (succeeds_ok _) ⟨⟨by simp, List.nodup_nil⟩, by simp⟩
  | cons record records ih =>
      intro seen shaped
      rcases List.forall_mem_cons.mp shaped with ⟨⟨own, rfl, optional⟩, others⟩
      rw [locationsFit_cons_iff, readLocations]
      cases found : Json.lookup? "id" own with
      | none =>
          rw [readLocation_of_no_id found]
          exact iff_of_false (not_succeeds_error _) fun both => by simp [idText?, found] at both
      | some id =>
          rw [readLocation_of_id optional found]
          have idEq : idText? (.object own) = some id.asText := by simp [idText?, found]
          by_cases before : id.asText ∈ seen
          · rw [if_pos (List.contains_iff_mem.mpr before)]
            refine iff_of_false (not_succeeds_error _) fun both => both.2 _ before ?_
            rw [List.map_cons, idEq]
            exact List.mem_cons_self
          · rw [if_neg (mt List.contains_iff_mem.mp before)]
            refine (succeeds_bind_iff_of_succeeds fun later => succeeds_ok _).trans ?_
            rw [ih others, idEq, List.map_cons, idEq, List.forall_mem_cons]
            constructor
            · rintro ⟨fit, fresh, apart⟩
              refine ⟨⟨rfl, fresh, fit⟩, fun other member => ?_⟩
              rw [List.mem_cons, Option.some.injEq, not_or]
              exact ⟨fun same => before (same ▸ member), apart other member⟩
            · rintro ⟨⟨-, fresh, fit⟩, apart⟩
              exact ⟨fit, fresh, fun other member =>
                fun repeated => apart other member (List.mem_cons_of_mem _ repeated)⟩

theorem succeeds_readKills_iff (testCase : String) (count : Json) :
    Succeeds (readKills testCase count) ↔ Succeeds (Numeral.toInt count) := by
  unfold readKills
  cases Numeral.toInt count with
  | ok number => exact iff_of_true (succeeds_ok _) (succeeds_ok _)
  | error fault => cases fault <;> exact iff_of_false (not_succeeds_error _) (not_succeeds_error _)

theorem succeeds_readKillCounts_iff (entries : List (String × Json)) :
    Succeeds (readKillCounts (.object entries)) ↔
      ∀ entry ∈ entries, Succeeds (Numeral.toInt entry.2) := by
  refine (succeeds_bind_iff_of_succeeds fun counts => succeeds_ok _).trans ?_
  rw [succeeds_mapM_iff]
  refine forall₂_congr fun entry _ => ?_
  exact (succeeds_bind_iff_of_succeeds fun number => succeeds_ok _).trans
    (succeeds_readKills_iff entry.1 entry.2)

/-! ## The dataset as a whole -/

section

variable {fields : List (String × Json)} (documented : Documented fields)

include documented

theorem kills_eq_of_documented :
    fieldOr "test_case_kills" (.object []) fields =
      .object (entriesUnder "test_case_kills" fields) := by
  unfold fieldOr entriesUnder
  cases found : Json.lookup? "test_case_kills" fields with
  | none => rfl
  | some value =>
      rcases documented.kills value found with ⟨entries, rfl⟩
      rfl

theorem locations_eq_of_documented :
    Json.lookup? "locations" fields = some (.list (itemsUnder "locations" fields)) ∧
      ∀ record ∈ itemsUnder "locations" fields, RecordWith "mutants" record := by
  rcases documented.locations with ⟨records, found, shaped⟩
  unfold itemsUnder
  rw [found]
  exact ⟨rfl, shaped⟩

theorem succeeds_readLocations_of_documented (mutants : OrderedMap Mutant) :
    Succeeds (readLocations mutants [] (itemsUnder "locations" fields)) ↔
      LocationsFit (itemsUnder "locations" fields) :=
  (succeeds_readLocations_iff (locations_eq_of_documented documented).2).trans
    (and_iff_left (by simp))

/-- In a dataset of the documented shape only mutants, locations and kill counts can go wrong. -/
theorem ofJson_of_documented :
    ofJson (.object fields) = do
      let statusLabels := (itemsUnder "status_labels" fields).map Json.asText
      let kindLabels := (itemsUnder "kind_labels" fields).map Json.asText
      let mutants <- readMutants statusLabels kindLabels (fieldOr "mutants" noItems fields)
      let (locations, notes) <- readLocations mutants [] (itemsUnder "locations" fields)
      let kills <- readKillCounts (.object (entriesUnder "test_case_kills" fields))
      return ({ locations, mutants, statusLabels, kindLabels, kills }, notes) := by
  simp only [ofJson, (locations_eq_of_documented documented).1, ofFields,
    documented.statusLabels.itemTexts_eq, documented.kindLabels.itemTexts_eq,
    kills_eq_of_documented documented]
  rfl

/-- A dataset of the documented shape is accepted exactly if every mutant has an id, a key
counting as one, its status and its kind group, where they are given, are texts or indices into
the labels of their kind, every location has an id, no two of these are the same as texts, and
every kill count can be used as a whole number. -/
theorem dataset_accepted_iff :
    (∃ report notes, ofJson (.object fields) = .ok (report, notes)) ↔ Acceptable fields := by
  have whole : Succeeds (ofJson (.object fields)) ↔
      MutantsFit fields ∧ LocationsFit (itemsUnder "locations" fields) ∧
        ∀ entry ∈ entriesUnder "test_case_kills" fields, Succeeds (Numeral.toInt entry.2) := by
    rw [ofJson_of_documented documented, ← succeeds_readMutants_iff documented]
    refine succeeds_bind_iff fun mutants => ?_
    rw [← succeeds_readLocations_of_documented documented mutants, ← succeeds_readKillCounts_iff]
    exact succeeds_bind_iff fun located => succeeds_bind_iff_of_succeeds fun kills => succeeds_ok _
  exact Prod.exists.symm.trans (whole.trans
    ⟨fun fit => ⟨fit.1, fit.2.1, fit.2.2⟩, fun fit => ⟨fit.mutants, fit.locations, fit.counts⟩⟩)

end

/-- Two mutants under keys, the second of which has an id of its own, and two locations whose
ids are of different kinds.  The status of the first mutant is left open. -/
def keyedFields (status : Json) : List (String × Json) :=
  [("status_labels", .list [.text "unknown", .text "alive"]),
   ("kind_labels", .list [.null]),
   ("mutants", .object
      [("7", .object [("status", status), ("kind", .text "ror")]),
       ("8", .object [("id", .int 9), ("kind_group", .int 0), ("test_cases", .list [.int 1])])]),
   ("locations", .list
      [.object [("id", .int 3), ("mutants", .list [.text "7", .int 9, .text "8"])],
       .object [("id", .text "4")]]),
   ("test_case_kills", .object [("t1", .bool true), ("t2", .text "1_0")])]

theorem documented_keyedFields (status : Json) : Documented (keyedFields status) where
  locations := ⟨_, rfl, by
    rintro record (_ | ⟨_, _ | ⟨_, ⟨⟩⟩⟩)
    · exact ⟨_, rfl, fun value found => ⟨_, (Option.some.inj found).symm⟩⟩
    · exact ⟨_, rfl, fun value found => by cases found⟩⟩
  mutants value found := by
    cases found
    refine .inr ⟨_, rfl, ?_⟩
    rintro entry (_ | ⟨_, _ | ⟨_, ⟨⟩⟩⟩)
    · exact ⟨_, rfl, fun value found => by cases found⟩
    · exact ⟨_, rfl, fun value found => ⟨_, (Option.some.inj found).symm⟩⟩
  statusLabels value found := ⟨_, (Option.some.inj found).symm⟩
  kindLabels value found := ⟨_, (Option.some.inj found).symm⟩
  kills value found := ⟨_, (Option.some.inj found).symm⟩

/-- The report that the dataset stands for with the second status. -/
def keyed : Report where
  locations := [⟨"3", ["7", "9"]⟩, ⟨"4", []⟩]
  mutants := .ofList
    [("7", sampleMutant "7" "alive" "ror"),
     ("9", { sampleMutant "9" "unknown" "" with kindGroup := "None", testCases := ["1"] })]
  statusLabels := ["unknown", "alive"]
  kindLabels := ["None"]
  kills := .ofList [("t1", 1), ("t2", 10)]

/-- An index is accepted as a status, and a boolean is not. -/
theorem dataset_accepted_on_keyed :
    Documented (keyedFields (.int 1)) ∧
      ofJson (.object (keyedFields (.int 1))) = .ok (keyed, [.droppedMutant "3" "8"]) ∧
      Acceptable (keyedFields (.int 1)) ∧
      Documented (keyedFields (.bool true)) ∧ ¬ Acceptable (keyedFields (.bool true)) := by
  have accepted : ofJson (.object (keyedFields (.int 1))) =
      .ok (keyed, [.droppedMutant "3" "8"]) := by cbv
  have refused : ¬ ∃ report notes, ofJson (.object (keyedFields (.bool true))) =
      .ok (report, notes) := by
    rintro ⟨report, notes, read⟩
    cases read
  exact ⟨documented_keyedFields _, accepted,
    (dataset_accepted_iff (documented_keyedFields _)).mp ⟨_, _, accepted⟩,
    documented_keyedFields _, mt (dataset_accepted_iff (documented_keyedFields _)).mpr refused⟩

end Report
end MutationViewer
