import MutationViewer.Proofs.Report.Acceptance

/-!
# How datasets are refused

A dataset that is not accepted is refused with a defect, and a defect has a message.  One kind of
value slips through: an infinite number is of the right kind and is no malformed text, but no
whole number comes of it.  As a kill count it ends the reading without a message, provided that
nothing before it is refused.  Mutants, locations and kill counts are read one after the other,
so the first thing that goes wrong decides.
-/

namespace MutationViewer
namespace Dataset

section

variable {Failure First Second : Type} {first : Except Failure First}
  {next : First -> Except Failure Second} {failure : Failure}

theorem bind_eq_error_iff :
    (first >>= next) = .error failure ↔
      first = .error failure ∨ ∃ value, first = .ok value ∧ next value = .error failure := by
  cases first with
  | error other => simp [bind, Except.bind]
  | ok value => simp [bind, Except.bind]

/-- Reading item by item fails with the first item that is not read. -/
theorem mapM_eq_error_iff {read : First -> Except Failure Second} {values : List First} :
    values.mapM read = .error failure ↔
      ∃ before value after, values = before ++ value :: after ∧
        (∀ earlier ∈ before, Succeeds (read earlier)) ∧ read value = .error failure := by
  induction values with
  | nil =>
      refine iff_of_false (fun impossible => by cases impossible) ?_
      rintro ⟨before, value, after, split, -⟩
      simp at split
  | cons head values ih =>
      rw [List.mapM_cons, bind_eq_error_iff]
      constructor
      · rintro (failed | ⟨result, read, failed⟩)
        · exact ⟨[], head, values, rfl, by simp, failed⟩
        · rcases bind_eq_error_iff.mp failed with failed | ⟨others, -, impossible⟩
          · rcases ih.mp failed with ⟨before, value, after, rfl, earlier, refused⟩
            exact ⟨head :: before, value, after, rfl,
              List.forall_mem_cons.mpr ⟨⟨result, read⟩, earlier⟩, refused⟩
          · cases impossible
      · rintro ⟨before, value, after, split, earlier, refused⟩
        cases before with
        | nil =>
            cases split
            exact .inl refused
        | cons other before =>
            cases split
            rcases List.forall_mem_cons.mp earlier with ⟨⟨result, read⟩, earlier⟩
            exact .inr ⟨result, read, bind_eq_error_iff.mpr
              (.inl (ih.mpr ⟨before, value, after, rfl, earlier, refused⟩))⟩

end

/-- If the reader fails, there is a message. -/
def Worded {Value : Type} (result : Except Fault Value) : Prop :=
  forall fault, result = .error fault -> ∃ defect, fault = .defect defect

section

variable {First Second : Type}

theorem worded_ok (value : First) : Worded (.ok value) := by
  intro fault impossible
  cases impossible

theorem worded_defect (defect : Defect) :
    Worded (.error (.defect defect) : Except Fault First) := by
  intro fault same
  cases same
  exact ⟨defect, rfl⟩

theorem Worded.bind {first : Except Fault First} {next : First -> Except Fault Second}
    (worded : Worded first) (rest : forall value, Worded (next value)) :
    Worded (first >>= next) := by
  intro fault failed
  rcases bind_eq_error_iff.mp failed with failed | ⟨value, -, failed⟩
  · exact worded fault failed
  · exact rest value fault failed

theorem worded_mapM {read : First -> Except Fault Second} {values : List First}
    (each : ∀ value ∈ values, Worded (read value)) : Worded (values.mapM read) := by
  intro fault failed
  rcases mapM_eq_error_iff.mp failed with ⟨before, value, after, rfl, -, refused⟩
  exact each value (by simp) fault refused

end

/-! ## Infinite numbers -/

def IsInfinite : Json -> Prop
  | .float value => ∃ negative, Decimal.Exact.ofFloat value = .infinite negative
  | _ => False

/-- A value that is refused as a kill count is the first one, and it is infinite. -/
def InfiniteFirst (entries : List (String × Json)) : Prop :=
  ∃ before testCase count after, entries = before ++ (testCase, count) :: after ∧
    (∀ entry ∈ before, Succeeds (Numeral.toInt entry.2)) ∧ IsInfinite count

theorem readInt_eq_error {text : String} {fault : Numeral.Fault}
    (refused : Numeral.readInt text = .error fault) : fault = .malformed := by
  simp only [Numeral.readInt] at refused
  split at refused
  · cases refused
    rfl
  · split at refused <;> cases refused
    rfl
  · cases refused
    rfl

/-- Of the ways in which a number can fail to be whole only infinity is not worded. -/
theorem toInt_eq_error_iff {count : Json} {fault : Numeral.Fault}
    (unworded : fault ≠ .wrongKind ∧ fault ≠ .malformed) :
    Numeral.toInt count = .error fault ↔ fault = .infinite ∧ IsInfinite count := by
  cases count with
  | float value =>
      simp only [Numeral.toInt, IsInfinite]
      cases Decimal.Exact.ofFloat value with
      | infinite negative => simp [eq_comm]
      | notANumber => simp [eq_comm, unworded.2]
      | finite negative mantissa exponent => simp
  | text text =>
      refine iff_of_false (fun refused => unworded.2 (readInt_eq_error refused)) fun both => both.2
  | int value => exact iff_of_false (fun impossible => by cases impossible) fun both => both.2
  | bool value => exact iff_of_false (fun impossible => by cases impossible) fun both => both.2
  | _ =>
      refine iff_of_false (fun refused => unworded.1 ?_) fun both => both.2
      exact (Except.error.inj refused).symm

end Dataset

namespace Report

open Dataset

section

variable {statusLabels kindLabels : List String}

theorem worded_readLabel (kind : LabelKind) (labels : List String) (value : Json) :
    Worded (readLabel kind labels value) := by
  unfold readLabel
  split
  · exact worded_ok _
  · split
    · split
      · exact worded_ok _
      · exact worded_defect _
    · exact worded_defect _
  · exact worded_defect _

theorem worded_readMutant {record : Json} (shaped : RecordWith "test_cases" record) :
    Worded (readMutant statusLabels kindLabels record) := by
  rcases shaped with ⟨own, rfl, optional⟩
  rw [readMutant_object]
  split
  · unfold mutantOfFields
    rw [optional.itemTexts_eq]
    exact (worded_readLabel .status _ _).bind fun status =>
      (worded_readLabel .kindGroup _ _).bind fun kindGroup => worded_ok _
  · exact worded_defect _

end

theorem worded_readMutants {fields : List (String × Json)} (documented : Documented fields)
    (statusLabels kindLabels : List String) :
    Worded (readMutants statusLabels kindLabels (fieldOr "mutants" noItems fields)) := by
  rcases exists_mutantRecords documented with ⟨records, given, shaped⟩
  unfold readMutants
  rw [given]
  exact (worded_mapM fun record member => worded_readMutant (shaped record member)).bind
    fun mutants => worded_ok _

theorem worded_readLocation {mutants : OrderedMap Mutant} {seen : List String} {record : Json}
    (shaped : RecordWith "mutants" record) : Worded (readLocation mutants seen record) := by
  rcases shaped with ⟨own, rfl, optional⟩
  cases found : Json.lookup? "id" own with
  | none =>
      rw [readLocation_of_no_id found]
      exact worded_defect _
  | some id =>
      rw [readLocation_of_id optional found]
      split
      · exact worded_defect _
      · exact worded_ok _

theorem worded_readLocations {mutants : OrderedMap Mutant} {records : List Json} :
    forall {seen : List String}, (∀ record ∈ records, RecordWith "mutants" record) ->
      Worded (readLocations mutants seen records) := by
  induction records with
  | nil => exact fun _ => worded_ok _
  | cons record records ih =>
      intro seen shaped
      rcases List.forall_mem_cons.mp shaped with ⟨first, others⟩
      exact (worded_readLocation first).bind fun located =>
        (ih others).bind fun later => worded_ok _

/-- A kill count is refused without a message if and only if it is infinite. -/
theorem readKills_unworded_iff (testCase : String) (count : Json) (fault : Fault) :
    readKills testCase count = .error fault ∧ (forall defect, fault ≠ .defect defect) ↔
      fault = .numeral .infinite ∧ IsInfinite count := by
  have infinite_iff : Numeral.toInt count = .error .infinite ↔ IsInfinite count :=
    (toInt_eq_error_iff (by decide)).trans (and_iff_right rfl)
  rw [← infinite_iff]
  unfold readKills
  cases read : Numeral.toInt count with
  | ok number => simp
  | error refused =>
      cases refused with
      | infinite => simp +contextual [eq_comm]
      | tooLarge => cases ((toInt_eq_error_iff (by decide)).mp read).1
      | _ => simp +contextual [eq_comm]

theorem readKillCounts_eq_error_iff {entries : List (String × Json)} {fault : Fault} :
    readKillCounts (.object entries) = .error fault ↔
      ∃ before testCase count after, entries = before ++ (testCase, count) :: after ∧
        (∀ entry ∈ before, Succeeds (Numeral.toInt entry.2)) ∧
        readKills testCase count = .error fault := by
  have single : forall entry : String × Json,
      (do return (entry.1, <- readKills entry.1 entry.2)) = Except.error fault ↔
        readKills entry.1 entry.2 = .error fault := fun entry =>
    bind_eq_error_iff.trans (or_iff_left (by rintro ⟨number, -, ⟨⟩⟩))
  have succeeds : forall entry : String × Json,
      Succeeds (do return (entry.1, <- readKills entry.1 entry.2)) ↔
        Succeeds (Numeral.toInt entry.2) := fun entry =>
    (succeeds_bind_iff_of_succeeds fun number => succeeds_ok _).trans
      (succeeds_readKills_iff entry.1 entry.2)
  have opened : readKillCounts (.object entries) =
      (entries.mapM fun entry => do return (entry.1, <- readKills entry.1 entry.2)) >>=
        fun counts => .ok (OrderedMap.ofList counts) := rfl
  rw [opened, bind_eq_error_iff, or_iff_left (by rintro ⟨counts, -, ⟨⟩⟩), mapM_eq_error_iff]
  simp only [single, succeeds, Prod.exists]

theorem readKillCounts_unworded_iff (entries : List (String × Json)) (fault : Fault) :
    readKillCounts (.object entries) = .error fault ∧ (forall defect, fault ≠ .defect defect) ↔
      fault = .numeral .infinite ∧ InfiniteFirst entries := by
  rw [readKillCounts_eq_error_iff]
  constructor
  · rintro ⟨⟨before, testCase, count, after, split, earlier, refused⟩, unworded⟩
    rcases (readKills_unworded_iff testCase count fault).mp ⟨refused, unworded⟩
      with ⟨same, infinite⟩
    exact ⟨same, before, testCase, count, after, split, earlier, infinite⟩
  · rintro ⟨same, before, testCase, count, after, split, earlier, infinite⟩
    rcases (readKills_unworded_iff testCase count fault).mpr ⟨same, infinite⟩
      with ⟨refused, unworded⟩
    exact ⟨⟨before, testCase, count, after, split, earlier, refused⟩, unworded⟩

/-- A dataset of the documented shape is refused without a message exactly if its mutants and
its locations fit and the first kill count that is no whole number is an infinite one; and it is
the infinite number that ends the reading then.  In all other cases it is accepted or refused
with a defect. -/
theorem refused_unworded_iff {fields : List (String × Json)} (documented : Documented fields)
    (fault : Fault) :
    ofJson (.object fields) = .error fault ∧ (forall defect, fault ≠ .defect defect) ↔
      fault = .numeral .infinite ∧ MutantsFit fields ∧
        LocationsFit (itemsUnder "locations" fields) ∧
        InfiniteFirst (entriesUnder "test_case_kills" fields) := by
  have shaped := (locations_eq_of_documented documented).2
  have located := succeeds_readLocations_of_documented documented
  rw [ofJson_of_documented documented, ← succeeds_readMutants_iff documented]
  constructor
  -- the first two stages fail with a message if they fail, so an unworded failure is the last one
  · rintro ⟨failed, unworded⟩
    rcases bind_eq_error_iff.mp failed with failed | ⟨mutants, readMutants, failed⟩
    · rcases worded_readMutants documented _ _ fault failed with ⟨defect, same⟩
      exact absurd same (unworded defect)
    rcases bind_eq_error_iff.mp failed with failed | ⟨placed, readPlaces, failed⟩
    · rcases worded_readLocations shaped fault failed with ⟨defect, same⟩
      exact absurd same (unworded defect)
    rcases bind_eq_error_iff.mp failed with failed | ⟨kills, -, impossible⟩
    · rcases (readKillCounts_unworded_iff _ fault).mp ⟨failed, unworded⟩ with ⟨same, first⟩
      exact ⟨same, ⟨mutants, readMutants⟩, (located mutants).mp ⟨placed, readPlaces⟩, first⟩
    · cases impossible
  · rintro ⟨same, ⟨mutants, readMutants⟩, fit, first⟩
    rcases (located mutants).mpr fit with ⟨placed, readPlaces⟩
    rcases (readKillCounts_unworded_iff _ fault).mpr ⟨same, first⟩ with ⟨failed, unworded⟩
    refine ⟨?_, unworded⟩
    exact bind_eq_error_iff.mpr (.inr ⟨mutants, readMutants, bind_eq_error_iff.mpr
      (.inr ⟨placed, readPlaces, bind_eq_error_iff.mpr (.inl failed)⟩)⟩)

/-- A dataset of kill counts alone. -/
def countsOnly (counts : List (String × Json)) : List (String × Json) :=
  [("locations", .list []), ("test_case_kills", .object counts)]

theorem documented_countsOnly (counts : List (String × Json)) : Documented (countsOnly counts) where
  locations := ⟨[], rfl, by simp⟩
  mutants value found := by cases found
  statusLabels value found := by cases found
  kindLabels value found := by cases found
  kills value found := ⟨counts, (Option.some.inj found).symm⟩

/-- A good count, an infinite one and a malformed one. -/
def mixedCounts : List (String × Json) :=
  [("t1", .int 2), ("t2", .float (Decimal.infinity true)), ("t3", .text "many")]

/-- The infinite count ends the reading, and the malformed one is not reached. -/
theorem refused_unworded_on_counts :
    Documented (countsOnly mixedCounts) ∧
      ofJson (.object (countsOnly mixedCounts)) = .error (.numeral .infinite) := by
  have documented := documented_countsOnly mixedCounts
  have mutantsFit : MutantsFit (countsOnly mixedCounts) :=
    (succeeds_readMutants_iff documented).mp ⟨_, rfl⟩
  have first : InfiniteFirst mixedCounts := by
    refine ⟨[("t1", .int 2)], "t2", _, [("t3", .text "many")], rfl, ?_, true, rfl⟩
    rintro entry (_ | ⟨_, ⟨⟩⟩)
    exact ⟨2, rfl⟩
  have refused := (refused_unworded_iff documented (.numeral .infinite)).mpr
    ⟨rfl, mutantsFit, ⟨by simp [countsOnly, itemsUnder, Json.lookup?], List.nodup_nil⟩, first⟩
  exact ⟨documented, refused.1⟩

/-- An infinite kill count is refused, but not with a defect. -/
theorem infinite_count_without_message :
    Documented (countsOnly [("t1", .float (Decimal.infinity false))]) ∧
      ofJson (.object (countsOnly [("t1", .float (Decimal.infinity false))])) =
        .error (.numeral .infinite) ∧
      ¬ Worded (ofJson (.object (countsOnly [("t1", .float (Decimal.infinity false))]))) := by
  have refused : ofJson (.object (countsOnly [("t1", .float (Decimal.infinity false))])) =
      .error (.numeral .infinite) := rfl
  refine ⟨documented_countsOnly _, refused, fun worded => ?_⟩
  rcases worded _ refused with ⟨defect, ⟨⟩⟩

end Report
end MutationViewer
