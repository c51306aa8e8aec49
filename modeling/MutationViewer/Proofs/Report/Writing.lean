import MutationViewer.Proofs.Report.Acceptance

/-!
# Writing reports

A report has a written form that says everything in full: labels, ids and texts are written as
texts, and kill counts as integers.  Its mutants can be written as a list or under their ids.
The written form leaves the reader nothing to look up, to convert or to drop, so a report whose
parts agree is read back from it as it was, whatever the lists of labels hold.  The converse
holds as well, since a report that is read has parts that agree.
-/

namespace MutationViewer

def Json.ofTexts (texts : List String) : Json :=
  .list (texts.map .text)

def Mutant.toJson (mutant : Mutant) : Json :=
  .object
    [("id", .text mutant.id), ("status", .text mutant.status), ("kind", .text mutant.kind),
     ("kind_group", .text mutant.kindGroup), ("original", .text mutant.replaced),
     ("mutated", .text mutant.replacement), ("metadata", .text mutant.metadata),
     ("test_cases", .ofTexts mutant.testCases)]

def Location.toJson (location : Location) : Json :=
  .object [("id", .text location.id), ("mutants", .ofTexts location.mutantIds)]

namespace Report

/-- The two ways in which a dataset may give its mutants. -/
inductive MutantForm where
  | listed
  | keyed

/-- The mutants in their order, as a list or under their keys. -/
def mutantsToJson (mutants : OrderedMap Mutant) : MutantForm -> Json
  | .listed => .list (mutants.values.map Mutant.toJson)
  | .keyed => .object (mutants.entries.map fun entry => (entry.1, entry.2.toJson))

def toJson (report : Report) (form : MutantForm) : Json :=
  .object
    [("status_labels", .ofTexts report.statusLabels),
     ("kind_labels", .ofTexts report.kindLabels),
     ("mutants", mutantsToJson report.mutants form),
     ("locations", .list (report.locations.map Location.toJson)),
     ("test_case_kills", .object (report.kills.entries.map fun entry => (entry.1, .int entry.2)))]

end Report

namespace OrderedMap

variable {Value : Type}

theorem eq_of_entries {first second : OrderedMap Value} (same : first.entries = second.entries) :
    first = second := by
  cases first
  cases second
  cases same
  rfl

theorem putEntry_of_fresh {key : String} (value : Value) {entries : List (String × Value)}
    (fresh : key ∉ entries.map Prod.fst) :
    putEntry key value entries = entries ++ [(key, value)] := by
  induction entries with
  | nil => rfl
  | cons entry rest ih =>
      rw [List.map_cons, List.mem_cons, not_or] at fresh
      rw [putEntry, if_neg (Ne.symm fresh.1), ih fresh.2, List.cons_append]

/-- Pairs with different keys are put one behind the other. -/
theorem entries_ofList {pairs : List (String × Value)} (nodup : (pairs.map Prod.fst).Nodup) :
    (ofList pairs).entries = pairs := by
  induction pairs using List.reverseRecOn with
  | nil => rfl
  | append_singleton pairs pair ih =>
      rw [List.map_append, List.nodup_append] at nodup
      have fresh : pair.1 ∉ pairs.map Prod.fst :=
        fun member => nodup.2.2 _ member _ List.mem_cons_self rfl
      rw [ofList_concat]
      change putEntry pair.1 pair.2 (ofList pairs).entries = pairs ++ [pair]
      rw [ih nodup.1, putEntry_of_fresh pair.2 fresh]

theorem ofList_entries (map : OrderedMap Value) : ofList map.entries = map :=
  eq_of_entries (entries_ofList map.nodup)

end OrderedMap

/-! ## Reading what is written -/

namespace Dataset

theorem mapM_eq_ok_map {Failure First Second : Type} {read : First -> Except Failure Second}
    {result : First -> Second} {values : List First}
    (each : ∀ value ∈ values, read value = .ok (result value)) :
    values.mapM read = .ok (values.map result) := by
  induction values with
  | nil => rfl
  | cons value values ih =>
      rcases List.forall_mem_cons.mp each with ⟨first, others⟩
      rw [List.mapM_cons, first, ih others]
      rfl

theorem mapM_map_eq_ok {Failure First Second : Type} {write : First -> Second}
    {read : Second -> Except Failure First} {values : List First}
    (each : ∀ value ∈ values, read (write value) = .ok value) :
    (values.map write).mapM read = .ok values := by
  have whole : values.mapM (fun value => read (write value)) =
      .ok (values.map fun value => value) := mapM_eq_ok_map each
  rw [List.map_id'] at whole
  rwa [List.mapM_map]

theorem bind_of_ok {Failure First Second : Type} {first : Except Failure First} {value : First}
    (read : first = .ok value) (next : First -> Except Failure Second) :
    (first >>= next) = next value := by
  rw [read]
  rfl

theorem itemTexts_ofTexts (texts : List String) : itemTexts (.ofTexts texts) = .ok texts := by
  rw [Json.ofTexts, itemTexts_list, List.map_map]
  exact congrArg Except.ok (List.map_id texts)

end Dataset

namespace Report

open Dataset

/-- Texts pass whatever the labels are. -/
theorem readMutant_toJson (statusLabels kindLabels : List String) (mutant : Mutant) :
    readMutant statusLabels kindLabels mutant.toJson = .ok mutant := by
  change (itemTexts (.ofTexts mutant.testCases) >>= fun testCases =>
    .ok { mutant with testCases }) = .ok mutant
  rw [itemTexts_ofTexts]
  rfl

/-- Under its key a mutant needs no other id than its own. -/
theorem recordUnder_toJson (key : String) (mutant : Mutant) :
    recordUnder key mutant.toJson = .ok mutant.toJson := rfl

theorem mutantRecords_mutantsToJson (mutants : OrderedMap Mutant) (form : MutantForm) :
    mutantRecords (mutantsToJson mutants form) = .ok (mutants.values.map Mutant.toJson) := by
  cases form with
  | listed => rfl
  | keyed =>
      change (mutants.entries.map fun entry => (entry.1, entry.2.toJson)).mapM
        (fun field => recordUnder field.1 field.2) = _
      rw [List.mapM_map, mapM_eq_ok_map fun entry _ => recordUnder_toJson entry.1 entry.2,
        OrderedMap.values, List.map_map]
      rfl

/-- Mutants whose keys are their ids are kept in their order. -/
theorem readMutants_mutantsToJson {mutants : OrderedMap Mutant}
    (own : ∀ entry ∈ mutants.entries, entry.2.id = entry.1) (form : MutantForm)
    (statusLabels kindLabels : List String) :
    readMutants statusLabels kindLabels (mutantsToJson mutants form) = .ok mutants := by
  have read : (mutants.values.map Mutant.toJson).mapM (readMutant statusLabels kindLabels) =
      .ok mutants.values :=
    mapM_map_eq_ok fun mutant _ => readMutant_toJson statusLabels kindLabels mutant
  have entries : mutants.values.map (fun mutant => (mutant.id, mutant)) = mutants.entries := by
    have same : ∀ entry ∈ mutants.entries,
        ((fun mutant : Mutant => (mutant.id, mutant)) ∘ Prod.snd) entry = id entry :=
      fun entry member => Prod.ext (own entry member) rfl
    rw [OrderedMap.values, List.map_map, List.map_congr_left same, List.map_id]
  have kept :
      OrderedMap.ofList (mutants.values.map fun mutant => (mutant.id, mutant)) = mutants := by
    rw [entries, OrderedMap.ofList_entries]
  have records := mutantRecords_mutantsToJson mutants form
  rw [readMutants, bind_of_ok records, bind_of_ok read, kept]
  rfl

theorem readLocation_toJson {mutants : OrderedMap Mutant} {seen : List String}
    {location : Location} (fresh : location.id ∉ seen)
    (known : ∀ id ∈ location.mutantIds, mutants.contains id) :
    readLocation mutants seen location.toJson = .ok (location, []) := by
  have kept : location.mutantIds.filter mutants.contains = location.mutantIds :=
    List.filter_eq_self.mpr known
  have dropped : droppedNotes mutants location.id location.mutantIds = [] := by
    simpa [droppedNotes] using known
  have opened : readLocation mutants seen location.toJson =
      if seen.contains location.id then .error (.defect (.duplicateLocation location.id))
      else itemTexts (.ofTexts location.mutantIds) >>= fun listed => .ok
        (⟨location.id, listed.filter mutants.contains⟩,
          droppedNotes mutants location.id listed) := rfl
  rw [opened, if_neg (mt List.contains_iff_mem.mp fresh), itemTexts_ofTexts]
  exact congrArg Except.ok (Prod.ext (congrArg (Location.mk location.id) kept) dropped)

/-- Locations with different ids and known mutants are read back, and nothing is dropped. -/
theorem readLocations_toJson {mutants : OrderedMap Mutant} {locations : List Location} :
    forall {seen : List String}, (locations.map Location.id).Nodup ->
      (∀ location ∈ locations, location.id ∉ seen ∧
        ∀ id ∈ location.mutantIds, mutants.contains id) ->
      readLocations mutants seen (locations.map Location.toJson) = .ok (locations, []) := by
  induction locations with
  | nil => exact fun _ _ => rfl
  | cons location locations ih =>
      intro seen distinct each
      rw [List.map_cons, List.nodup_cons] at distinct
      rcases List.forall_mem_cons.mp each with ⟨⟨fresh, known⟩, others⟩
      have rest : readLocations mutants (location.id :: seen) (locations.map Location.toJson) =
          .ok (locations, []) := by
        refine ih distinct.2 fun other member => ⟨?_, (others other member).2⟩
        rw [List.mem_cons, not_or]
        exact ⟨fun same => distinct.1 (List.mem_map.mpr ⟨other, member, same⟩),
          (others other member).1⟩
      rw [List.map_cons, readLocations, bind_of_ok (readLocation_toJson fresh known)]
      dsimp only
      rw [bind_of_ok rest]
      rfl

theorem readKillCounts_toJson (kills : OrderedMap Int) :
    readKillCounts (.object (kills.entries.map fun entry => (entry.1, .int entry.2))) =
      .ok kills := by
  have read : (kills.entries.map fun entry => (entry.1, Json.int entry.2)).mapM
      (fun field => do return (field.1, <- readKills field.1 field.2)) = .ok kills.entries :=
    mapM_map_eq_ok fun entry _ => rfl
  rw [readKillCounts, fieldsOf, bind_of_ok rfl, bind_of_ok read, kills.ofList_entries]
  rfl

/-- A report whose parts agree is read back from its written form, without a note. -/
theorem Coherent.ofJson_toJson {report : Report} (coherent : report.Coherent)
    (form : MutantForm) : ofJson (report.toJson form) = .ok (report, []) := by
  have own : ∀ entry ∈ report.mutants.entries, entry.2.id = entry.1 := fun entry member =>
    coherent.mutant_id ((OrderedMap.get?_eq_some_iff _ _ _).mpr member)
  have placed : readLocations report.mutants [] (report.locations.map Location.toJson) =
      .ok (report.locations, []) :=
    readLocations_toJson coherent.ids_nodup fun location member =>
      ⟨List.not_mem_nil, coherent.listed_known location member⟩
  have statuses := itemTexts_ofTexts report.statusLabels
  have kinds := itemTexts_ofTexts report.kindLabels
  have mutants := readMutants_mutantsToJson own form report.statusLabels report.kindLabels
  have kills := readKillCounts_toJson report.kills
  have opened : ofJson (report.toJson form) = (do
      let statusLabels <- itemTexts (.ofTexts report.statusLabels)
      let kindLabels <- itemTexts (.ofTexts report.kindLabels)
      let mutants <- readMutants statusLabels kindLabels (mutantsToJson report.mutants form)
      let located <- readLocations mutants [] (report.locations.map Location.toJson)
      let kills <- readKillCounts
        (.object (report.kills.entries.map fun entry => (entry.1, .int entry.2)))
      return (⟨located.1, mutants, statusLabels, kindLabels, kills⟩, located.2)) := rfl
  rw [opened, bind_of_ok statuses, bind_of_ok kinds, bind_of_ok mutants, bind_of_ok placed,
    bind_of_ok kills]
  rfl

/-- Written in either form, a report is read back as it was exactly if its parts agree: if its
mutants stand under their own ids, its locations have different ids and list known mutants only.
So a report that was read from any dataset is read again from its written form. -/
theorem written_report_reads_back_iff (report : Report) (form : MutantForm) :
    (ofJson (report.toJson form) = .ok (report, []) ↔ report.Coherent) ∧
      forall data notes, ofJson data = .ok (report, notes) ->
        ofJson (report.toJson form) = .ok (report, []) :=
  ⟨⟨coherent_of_ofJson, fun coherent => coherent.ofJson_toJson form⟩,
    fun _ _ accepted => (coherent_of_ofJson accepted).ofJson_toJson form⟩

/-- The report in which records collide, and a mutant is listed twice, is read back from both
forms. -/
theorem written_report_reads_back_on_colliding :
    ofJson collidingData = .ok (colliding, [.droppedMutant "7" "9"]) ∧
      ofJson (colliding.toJson .listed) = .ok (colliding, []) ∧
      ofJson (colliding.toJson .keyed) = .ok (colliding, []) :=
  have accepted : ofJson collidingData = .ok (colliding, [.droppedMutant "7" "9"]) := by cbv
  ⟨accepted, (written_report_reads_back_iff colliding .listed).2 _ _ accepted,
    (written_report_reads_back_iff colliding .keyed).2 _ _ accepted⟩

end Report
end MutationViewer
