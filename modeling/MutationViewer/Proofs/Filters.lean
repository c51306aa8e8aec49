import Mathlib.Algebra.Ring.Parity
import Mathlib.Data.List.Perm.Basic
import MutationViewer.Filters
import MutationViewer.Proofs.Report.Acceptance
import MutationViewer.Report.Panel

/-!
# Switching filters again and again

A switch excludes a value that is included and includes one that is excluded.  What many
switches come to is therefore told by how often each of them occurs, and in which order they
are taken is no matter.  Filters are compared by what they exclude: the excluded labels are
kept in the order of their code points, so filters that exclude the same are the same.

A page offers a switch for each label of a kind, or for each value in use where there are no
labels.  A label that is given as text need not be one of those that the dataset lists, nor need
the one that stands for a label that is not given.  So a mutant can have a label that is not
offered, and then it stays when all that is offered is switched off.  Statuses and kind groups
behave alike, and are treated as one.
-/

namespace MutationViewer

theorem LabelSet.nodup_labels (set : LabelSet) : set.labels.Nodup := by
  apply set.sorted.imp
  intro first second less equal
  subst equal
  exact String.lt_irrefl first less

theorem LabelSet.eq_of_contains {first second : LabelSet}
    (same : forall label, first.contains label = second.contains label) : first = second := by
  have members : forall label, label ∈ first.labels ↔ label ∈ second.labels := by
    intro label
    rw [← List.contains_iff_mem, ← List.contains_iff_mem]
    exact Bool.eq_iff_iff.mp (same label)
  have permuted := (List.perm_ext_iff_of_nodup first.nodup_labels second.nodup_labels).mpr members
  have equal : first.labels = second.labels := permuted.eq_of_pairwise
    (fun _ _ _ _ less greater => absurd greater (String.lt_asymm less)) first.sorted second.sorted
  cases first
  cases second
  cases equal
  rfl

namespace Filters

theorem eq_of_excludes {first second : Filters}
    (same : forall value, first.excludes value = second.excludes value) : first = second := by
  have kindGroups : first.kindGroups = second.kindGroups :=
    LabelSet.eq_of_contains fun label => same (.kindGroup label)
  have statuses : first.statuses = second.statuses :=
    LabelSet.eq_of_contains fun label => same (.status label)
  cases first
  cases second
  cases kindGroups
  cases statuses
  rfl

def toggleAll (filters : Filters) (switches : List Switch) : Filters :=
  switches.foldl toggle filters

/-- A value ends up the other way round if its switch is taken an odd number of times, and as it
was otherwise. -/
theorem excludes_toggleAll (filters : Filters) (switches : List Switch) (value : Switch) :
    (filters.toggleAll switches).excludes value =
      if Odd (switches.count value) then !filters.excludes value else filters.excludes value := by
  induction switches generalizing filters with
  | nil => simp [toggleAll]
  | cons switch switches ih =>
      change ((filters.toggle switch).toggleAll switches).excludes value = _
      rw [ih, excludes_toggle, List.count_cons]
      by_cases same : switch = value
      · subst same
        by_cases odd : Odd (switches.count switch) <;> simp [odd, Nat.odd_add_one]
      · simp [same]

theorem toggleAll_perm (filters : Filters) {switches permuted : List Switch}
    (perm : switches.Perm permuted) :
    filters.toggleAll switches = filters.toggleAll permuted := by
  apply eq_of_excludes
  intro value
  rw [excludes_toggleAll, excludes_toggleAll, perm.count_eq]

/-- One of the switches is for the kind group or for the status of the mutant. -/
def Concern (switches : List Switch) (mutant : Mutant) : Prop :=
  .kindGroup mutant.kindGroup ∈ switches ∨ .status mutant.status ∈ switches

instance (switches : List Switch) (mutant : Mutant) : Decidable (Concern switches mutant) :=
  inferInstanceAs (Decidable (_ ∨ _))

theorem concern_cons_iff (switch : Switch) (switches : List Switch) (mutant : Mutant) :
    Concern (switch :: switches) mutant ↔ Concern [switch] mutant ∨ Concern switches mutant := by
  simp only [Concern, List.mem_cons, List.not_mem_nil, or_false]
  exact or_or_or_comm

theorem concern_perm {switches permuted : List Switch} (perm : switches.Perm permuted)
    (mutant : Mutant) : Concern switches mutant ↔ Concern permuted mutant := by
  rw [Concern, Concern, perm.mem_iff, perm.mem_iff]

/-- A mutant that passes is lost with the first switch that concerns it, and with no other. -/
theorem passes_toggle_iff {filters : Filters} {mutant : Mutant}
    (passes : filters.passes mutant = true) (switch : Switch) :
    (filters.toggle switch).passes mutant = true ↔ ¬ Concern [switch] mutant := by
  rcases (passes_eq_true_iff filters mutant).mp passes with ⟨kindGroup, status⟩
  rw [passes_eq_true_iff, excludes_toggle, excludes_toggle, kindGroup, status]
  simp [Concern, eq_comm]

end Filters

/-! ## Switching off everything that is offered -/

open Dataset

/-- The label of a mutant that a kind of filter looks at. -/
def Mutant.label (mutant : Mutant) : LabelKind -> String
  | .status => mutant.status
  | .kindGroup => mutant.kindGroup

namespace Report

def labels (report : Report) : LabelKind -> List String
  | .status => report.statusLabels
  | .kindGroup => report.kindLabels

def offeredValues (report : Report) : LabelKind -> List String
  | .status => report.offeredStatuses
  | .kindGroup => report.offeredKindGroups

theorem offeredValues_eq (report : Report) (kind : LabelKind) :
    report.offeredValues kind = offered (report.labels kind)
      (report.mutants.values.map fun mutant => mutant.label kind) := by
  cases kind <;> rfl

theorem mem_offered_iff (labels inUse : List String) (value : String) :
    value ∈ offered labels inUse ↔ if labels = [] then value ∈ inUse else value ∈ labels := by
  cases labels with
  | nil => exact List.mem_eraseDups
  | cons label labels => exact Iff.rfl

theorem label_not_mem_offeredValues_iff {report : Report} {mutant : Mutant}
    (member : mutant ∈ report.mutants.values) (kind : LabelKind) :
    mutant.label kind ∉ report.offeredValues kind ↔
      report.labels kind ≠ [] ∧ mutant.label kind ∉ report.labels kind := by
  rw [offeredValues_eq, mem_offered_iff]
  split
  · next unlabelled =>
      exact iff_of_false (not_not_intro (List.mem_map.mpr ⟨mutant, member, rfl⟩))
        fun both => both.1 unlabelled
  · next labelled => exact (and_iff_right labelled).symm

theorem mem_values_of_mem_mutantsOf {report : Report} {location : Location} {mutant : Mutant}
    (member : mutant ∈ report.mutantsOf location) : mutant ∈ report.mutants.values := by
  rcases List.mem_filterMap.mp member with ⟨id, -, found⟩
  exact List.mem_map.mpr ⟨(id, mutant), (OrderedMap.get?_eq_some_iff _ _ _).mp found, rfl⟩

/-! ## Where labels come from -/

/-- What a record gives as the label of a mutant.  A status that is not given is unknown, and a
kind group that is not given is the kind. -/
def labelGiven (own : List (String × Json)) : LabelKind -> Json
  | .status => fieldOr "status" (.text "unknown") own
  | .kindGroup => fieldOr "kind_group" (.text (fieldOr "kind" (.text "") own).asText) own

theorem labelGiven_completed (key : Option String) (own : List (String × Json))
    (kind : LabelKind) : labelGiven (completed key own) kind = labelGiven own kind := by
  have same : forall name default, name ≠ "id" ->
      fieldOr name default (completed key own) = fieldOr name default own := fun name _ other =>
    congrArg (Option.getD · _) (lookup?_completed other key own)
  cases kind with
  | status => exact same _ _ (by decide)
  | kindGroup => rw [labelGiven, labelGiven, same _ _ (by decide), same _ _ (by decide)]

/-- A label is taken from the list, or it is the text that is given. -/
theorem mem_or_text_of_readLabel {kind : LabelKind} {labels : List String} {value : Json}
    {label : String} (read : readLabel kind labels value = .ok label) :
    label ∈ labels ∨ value = .text label := by
  cases value with
  | text text =>
      cases read
      exact .inr rfl
  | int index =>
      simp only [readLabel] at read
      split at read
      · split at read
        · next found =>
            cases read
            exact .inl (List.mem_of_getElem? found)
        · cases read
      · cases read
  | _ => cases read

theorem label_of_readMutant {statusLabels kindLabels : List String}
    {own : List (String × Json)} {mutant : Mutant}
    (read : readMutant statusLabels kindLabels (.object own) = .ok mutant) (kind : LabelKind) :
    mutant.label kind ∈ (match kind with | .status => statusLabels | .kindGroup => kindLabels) ∨
      labelGiven own kind = .text (mutant.label kind) := by
  rw [readMutant_object] at read
  split at read
  · rcases bind_eq_ok_iff.mp read with ⟨status, readStatus, read⟩
    rcases bind_eq_ok_iff.mp read with ⟨kindGroup, readKindGroup, read⟩
    rcases bind_eq_ok_iff.mp read with ⟨testCases, -, read⟩
    cases read
    cases kind with
    | status => exact mem_or_text_of_readLabel readStatus
    | kindGroup => exact mem_or_text_of_readLabel readKindGroup
  · cases read

/-- A mutant of a report is read from a record in the dataset, and each of its labels is one that
the dataset lists or the text that the record gives. -/
theorem exists_record_of_ofJson {data : Json} {report : Report} {notes : List Note}
    (accepted : ofJson data = .ok (report, notes)) {mutant : Mutant}
    (member : mutant ∈ report.mutants.values) :
    ∃ fields key own, data = .object fields ∧
      GivesMutant (fieldOr "mutants" noItems fields) key own ∧
      readMutant report.statusLabels report.kindLabels (.object (completed key own)) =
        .ok mutant ∧
      forall kind, mutant.label kind ∈ report.labels kind ∨
        labelGiven own kind = .text (mutant.label kind) := by
  rcases parts_of_ofJson accepted with ⟨fields, -, -, rfl, -, -, mutantsRead, -⟩
  rcases bind_eq_ok_iff.mp mutantsRead with ⟨records, given, mutantsRead⟩
  rcases bind_eq_ok_iff.mp mutantsRead with ⟨mutants, readAll, mutantsRead⟩
  rcases List.mem_map.mp member with ⟨⟨id, held⟩, entry, rfl⟩
  have found := (OrderedMap.get?_eq_some_iff _ _ _).mpr entry
  rw [← Except.ok.inj mutantsRead] at found
  rcases List.mem_map.mp (OrderedMap.mem_of_get?_ofList found) with ⟨_, among, ⟨⟩⟩
  rcases (mem_iff_of_mapM readAll held).mp among with ⟨record, listed, read⟩
  rcases carriesId_of_readMutant read with ⟨own, -, rfl, -, -⟩
  rcases (object_mem_mutantRecords_iff given own).mp listed with ⟨key, raw, gives, rfl⟩
  refine ⟨fields, key, raw, rfl, gives, read, fun kind => ?_⟩
  have either := label_of_readMutant read kind
  rw [labelGiven_completed] at either
  cases kind <;> exact either

end Report

namespace Filters

def Switch.ofLabel : LabelKind -> String -> Switch
  | .status => .status
  | .kindGroup => .kindGroup

theorem Switch.ofLabel_injective (kind : LabelKind) :
    Function.Injective (Switch.ofLabel kind) := by
  intro first second same
  cases kind <;> cases same <;> rfl

/-- Each of the values is switched once, and nothing else is excluded. -/
def without (kind : LabelKind) (values : List String) : Filters :=
  none.toggleAll (values.map (Switch.ofLabel kind))

/-- Of different switches each of which is taken once, just these values are excluded. -/
theorem excludes_toggleAll_once {switches : List Switch} (distinct : switches.Nodup)
    (value : Switch) : (none.toggleAll switches).excludes value = decide (value ∈ switches) := by
  have included : none.excludes value = false := by
    cases value <;> rfl
  rw [excludes_toggleAll, included, List.Nodup.count distinct]
  by_cases member : value ∈ switches <;> simp [member]

theorem passes_without_iff {values : List String} (distinct : values.Nodup) (kind : LabelKind)
    (mutant : Mutant) :
    (without kind values).passes mutant = true ↔ mutant.label kind ∉ values := by
  have excludes := excludes_toggleAll_once (distinct.map (Switch.ofLabel_injective kind))
  rw [passes_eq_true_iff, without, excludes, excludes]
  cases kind <;> simp [Switch.ofLabel, Mutant.label]

/-- After each of the values has been switched once a location keeps the mutants whose labels
are none of them. -/
theorem candidatesAt_without {values : List String} (distinct : values.Nodup) (kind : LabelKind)
    (report : Report) (location : Location) :
    (without kind values).candidatesAt report location =
      (report.mutantsOf location).filter fun mutant => decide (mutant.label kind ∉ values) := by
  refine List.filter_congr fun mutant _ => ?_
  rw [Bool.eq_iff_iff, passes_without_iff distinct, decide_eq_true_eq]

section

variable {kind : LabelKind} {values : List String} {report : Report} (distinct : values.Nodup)
  (offered : forall value, value ∈ values ↔ value ∈ report.offeredValues kind)

include distinct offered

theorem mem_left_iff (location : Location) (mutant : Mutant) :
    mutant ∈ (without kind values).candidatesAt report location ↔
      mutant ∈ report.mutantsOf location ∧
        report.labels kind ≠ [] ∧ mutant.label kind ∉ report.labels kind := by
  rw [candidatesAt_without distinct, List.mem_filter, decide_eq_true_eq, offered]
  exact and_congr_right fun member => Report.label_not_mem_offeredValues_iff
    (Report.mem_values_of_mem_mutantsOf member) kind

theorem nothing_left_iff :
    (∀ location ∈ report.locations, (without kind values).candidatesAt report location = []) ↔
      report.labels kind = [] ∨ ∀ location ∈ report.locations,
        ∀ mutant ∈ report.mutantsOf location, mutant.label kind ∈ report.labels kind := by
  constructor
  · intro nothing
    by_cases unlabelled : report.labels kind = []
    · exact .inl unlabelled
    · refine .inr fun location inside mutant member => ?_
      by_contra unlisted
      have kept := (mem_left_iff distinct offered location mutant).mpr
        ⟨member, unlabelled, unlisted⟩
      rw [nothing location inside] at kept
      exact List.not_mem_nil kept
  · intro covered location inside
    refine List.eq_nil_iff_forall_not_mem.mpr fun mutant kept => ?_
    rcases (mem_left_iff distinct offered location mutant).mp kept
      with ⟨member, labelled, unlisted⟩
    rcases covered with unlabelled | listed
    · exact labelled unlabelled
    · exact unlisted (listed location inside mutant member)

end

/-- Read any dataset that is accepted, and switch each value of a kind that is offered once.  A
location keeps exactly the mutants whose label is not offered.  So nothing is left exactly if
the dataset has no labels of the kind, or the labels of all mutants that are listed are among
them; and a mutant that is left has as its label a text that is none of the labels, given by its
record or standing for one that is not given. -/
theorem left_by_offered_switches {data : Json} {report : Report} {notes : List Note}
    (accepted : Report.ofJson data = .ok (report, notes)) (kind : LabelKind)
    {values : List String} (distinct : values.Nodup)
    (offered : forall value, value ∈ values ↔ value ∈ report.offeredValues kind) :
    (forall location, (without kind values).candidatesAt report location =
      (report.mutantsOf location).filter fun mutant =>
        decide (mutant.label kind ∉ report.offeredValues kind)) ∧
    ((∀ location ∈ report.locations, (without kind values).candidatesAt report location = []) ↔
      report.labels kind = [] ∨ ∀ location ∈ report.locations,
        ∀ mutant ∈ report.mutantsOf location, mutant.label kind ∈ report.labels kind) ∧
    forall location, ∀ mutant ∈ (without kind values).candidatesAt report location,
      report.labels kind ≠ [] ∧ mutant.label kind ∉ report.labels kind ∧
        ∃ fields key own, data = .object fields ∧
          GivesMutant (fieldOr "mutants" noItems fields) key own ∧
          Report.readMutant report.statusLabels report.kindLabels
            (.object (Report.completed key own)) = .ok mutant ∧
          Report.labelGiven own kind = .text (mutant.label kind) := by
  refine ⟨fun location => ?_, nothing_left_iff distinct offered, fun location mutant left => ?_⟩
  · simp only [candidatesAt_without distinct, offered]
  · rcases (mem_left_iff distinct offered location mutant).mp left
      with ⟨listed, labelled, unlisted⟩
    rcases Report.exists_record_of_ofJson accepted (Report.mem_values_of_mem_mutantsOf listed)
      with ⟨fields, key, own, same, gives, read, either⟩
    exact ⟨labelled, unlisted, fields, key, own, same, gives, read,
      (either kind).resolve_left unlisted⟩

end Filters

namespace Report

/-- Three mutants of one location: the status of the first is given as an index, and those of the
others as texts, of which the last is none of the labels.  Labels may be listed twice. -/
def labelledData : Json :=
  .object
    [("status_labels", .list [.text "alive", .text "killed", .text "alive"]),
     ("mutants", .list
        [.object [("id", .text "M1"), ("status", .int 0), ("kind", .text "ror")],
         .object [("id", .text "M2"), ("status", .text "killed"), ("kind", .text "aor")],
         .object [("id", .text "M3"), ("status", .text "timeout"), ("kind", .text "ror")]]),
     ("locations", .list
        [.object [("id", .text "L1"), ("mutants", .list [.text "M1", .text "M2", .text "M3"])]])]

def labelled : Report where
  locations := [⟨"L1", ["M1", "M2", "M3"]⟩]
  mutants := .ofList
    [("M1", sampleMutant "M1" "alive" "ror"),
     ("M2", sampleMutant "M2" "killed" "aor"),
     ("M3", sampleMutant "M3" "timeout" "ror")]
  statusLabels := ["alive", "killed", "alive"]
  kindLabels := []
  kills := .empty

theorem labelled_accepted : ofJson labelledData = .ok (labelled, []) := rfl

theorem mem_offeredValues_labelled (value : String) :
    value ∈ ["killed", "alive"] ↔ value ∈ labelled.offeredValues .status := by
  change _ ↔ value ∈ ["alive", "killed", "alive"]
  grind

end Report

namespace Filters

open Report

/-- One of the statuses is not offered and stays, while all kind groups are offered and go. -/
theorem left_by_offered_switches_on_labelled :
    ofJson labelledData = .ok (labelled, []) ∧
      (without .status ["killed", "alive"]).candidatesAt labelled ⟨"L1", ["M1", "M2", "M3"]⟩ =
        [sampleMutant "M3" "timeout" "ror"] ∧
      ∀ location ∈ labelled.locations,
        (without .kindGroup ["ror", "aor"]).candidatesAt labelled location = [] := by
  have statuses : ["killed", "alive"].Nodup := by decide
  have kindGroups : ["ror", "aor"].Nodup := by decide
  have groupsOffered : forall value,
      value ∈ ["ror", "aor"] ↔ value ∈ labelled.offeredValues .kindGroup := fun value => Iff.rfl
  have left := (left_by_offered_switches labelled_accepted .status statuses
    mem_offeredValues_labelled).1 ⟨"L1", ["M1", "M2", "M3"]⟩
  have nothing := (left_by_offered_switches labelled_accepted .kindGroup kindGroups
    groupsOffered).2.1
  exact ⟨labelled_accepted, left.trans rfl, nothing.mpr (.inl rfl)⟩

/-- When each status that is offered has been switched once, a mutant is left. -/
theorem unlisted_status_stays :
    ofJson labelledData = .ok (labelled, []) ∧ ["killed", "alive"].Nodup ∧
      (forall value, value ∈ ["killed", "alive"] ↔ value ∈ labelled.offeredStatuses) ∧
      ∃ location ∈ labelled.locations,
        (without .status ["killed", "alive"]).candidatesAt labelled location ≠ [] :=
  ⟨labelled_accepted, by decide, mem_offeredValues_labelled, _, List.mem_cons_self, by decide⟩

end Filters
end MutationViewer
