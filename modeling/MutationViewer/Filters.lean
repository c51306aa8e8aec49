import MutationViewer.Log
import MutationViewer.Report.Basic

/-!
# Filters

A kind group or a status can be excluded, and a mutant passes when neither of its own is.  The
two sets are independent: the same text may name a kind group and a status.  Nothing checks
that an excluded value occurs in the report.

The excluded labels are a list in the order of their code points, each once.  Equal sets are
therefore equal lists, whatever switches led to them.
-/

namespace MutationViewer
/-- A finite set of texts. -/
structure LabelSet where
  labels : List String
  sorted : labels.Pairwise fun first second => first < second

namespace LabelSet

def empty : LabelSet where
  labels := []
  sorted := .nil

def contains (set : LabelSet) (label : String) : Bool :=
  set.labels.contains label

def insertLabel (label : String) : List String -> List String
  | [] => [label]
  | first :: rest =>
      if label < first then label :: first :: rest else first :: insertLabel label rest

theorem mem_insertLabel (label other : String) (labels : List String) :
    other ∈ insertLabel label labels ↔ other = label ∨ other ∈ labels := by
  induction labels with
  | nil => simp [insertLabel]
  | cons first rest ih =>
      by_cases before : label < first
      · simp [insertLabel, before]
      · simp only [insertLabel, before, if_false, List.mem_cons, ih]
        constructor
        · rintro (same | same | member)
          · exact .inr (.inl same)
          · exact .inl same
          · exact .inr (.inr member)
        · rintro (same | same | member)
          · exact .inr (.inl same)
          · exact .inl same
          · exact .inr (.inr member)

private theorem sorted_insertLabel (label : String) (labels : List String)
    (sorted : labels.Pairwise fun first second => first < second) (fresh : label ∉ labels) :
    (insertLabel label labels).Pairwise fun first second => first < second := by
  induction labels with
  | nil => simp [insertLabel]
  | cons first rest ih =>
      rw [List.pairwise_cons] at sorted
      simp only [List.mem_cons, not_or] at fresh
      by_cases before : label < first
      · rw [insertLabel, if_pos before, List.pairwise_cons]
        refine ⟨?_, List.pairwise_cons.mpr sorted⟩
        intro other member
        rcases List.mem_cons.mp member with rfl | later
        · exact before
        · exact String.lt_trans before (sorted.1 other later)
      · rw [insertLabel, if_neg before, List.pairwise_cons]
        refine ⟨?_, ih sorted.2 fresh.2⟩
        intro other member
        rcases (mem_insertLabel label other rest).mp member with rfl | later
        · exact Std.lt_of_le_of_ne (String.not_lt.mp before) (Ne.symm fresh.1)
        · exact sorted.1 other later

/-- Take a label out of the set if it is there, else put it in. -/
def toggle (set : LabelSet) (label : String) : LabelSet :=
  if member : label ∈ set.labels then
    { labels := set.labels.filter fun other => !(other == label)
      sorted := set.sorted.filter _ }
  else
    { labels := insertLabel label set.labels
      sorted := sorted_insertLabel label set.labels set.sorted member }

theorem contains_toggle (set : LabelSet) (label other : String) :
    (set.toggle label).contains other =
      if label = other then !set.contains other else set.contains other := by
  unfold toggle
  by_cases same : label = other
  · subst same
    split <;> simp_all [contains, mem_insertLabel]
  · have different : ¬ other = label := fun equal => same equal.symm
    rw [if_neg same]
    apply Bool.eq_iff_iff.mpr
    split <;> simp [contains, mem_insertLabel, different]

end LabelSet

/-- The excluded kind groups and statuses. -/
structure Filters where
  kindGroups : LabelSet
  statuses : LabelSet

namespace Filters

def none : Filters where
  kindGroups := .empty
  statuses := .empty

/-- One of the two things that can be filtered. -/
inductive Switch where
  | kindGroup (value : String)
  | status (value : String)
deriving DecidableEq, Repr

def showsKindGroup (filters : Filters) (kindGroup : String) : Bool :=
  !filters.kindGroups.contains kindGroup

def showsStatus (filters : Filters) (status : String) : Bool :=
  !filters.statuses.contains status

def passes (filters : Filters) (mutant : Mutant) : Bool :=
  filters.showsKindGroup mutant.kindGroup && filters.showsStatus mutant.status

/-- Exclude a value, or include it again. -/
def toggle (filters : Filters) : Switch -> Filters
  | .kindGroup value => { filters with kindGroups := filters.kindGroups.toggle value }
  | .status value => { filters with statuses := filters.statuses.toggle value }

def excludes (filters : Filters) : Switch -> Bool
  | .kindGroup value => filters.kindGroups.contains value
  | .status value => filters.statuses.contains value

/-- The note on a switch that has been toggled. -/
def toggleNote (filters : Filters) : Switch -> Note
  | .kindGroup value => .kindGroupSwitched value (filters.excludes (.kindGroup value))
  | .status value => .statusSwitched value (filters.excludes (.status value))

/-- The mutants of a location that pass, in the order of the location. -/
def candidatesAt (filters : Filters) (report : Report) (location : Location) : List Mutant :=
  (report.mutantsOf location).filter filters.passes

def candidates (filters : Filters) (report : Report) : Option Location -> List Mutant
  | .none => []
  | some location => filters.candidatesAt report location

/-- The checkboxes of the kind groups: a value is checked when it is shown. -/
def kindGroupBoxes (filters : Filters) (values : List String) : List (String × Bool) :=
  values.map fun value => (value, filters.showsKindGroup value)

def statusBoxes (filters : Filters) (values : List String) : List (String × Bool) :=
  values.map fun value => (value, filters.showsStatus value)

/-- The numbered listeners that hear of a toggle, in the order of their
subscription. -/
def calls (listeners : Nat) : List Nat :=
  List.range listeners

theorem excludes_toggle (filters : Filters) (toggled other : Switch) :
    (filters.toggle toggled).excludes other =
      if toggled = other then !filters.excludes other else filters.excludes other := by
  cases toggled <;> cases other <;>
    simp [toggle, excludes, LabelSet.contains_toggle]

theorem passes_eq_true_iff (filters : Filters) (mutant : Mutant) :
    filters.passes mutant = true ↔
      filters.excludes (.kindGroup mutant.kindGroup) = false ∧
        filters.excludes (.status mutant.status) = false := by
  simp [passes, showsKindGroup, showsStatus, excludes]

end Filters

end MutationViewer
