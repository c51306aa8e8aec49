import MutationViewer.Text.Characters

/-!
# The address bar

A fragment is the part of a page's address that says what the page shows.  It may arrive with
a leading `#` and with blanks around it; the form that is kept has neither.  Blanks are cut
before the `#`, and only one `#` is dropped: what stands behind it, blanks and further signs
included, belongs to the fragment.

The bar remembers the fragments it has shown, oldest first, and which of them it shows now.
Writing a new fragment forgets everything ahead of the current entry; moving back and forward
forgets nothing.  A step that leaves the fragment as it was gives `none`, and exactly the other
steps are announced to the listeners of the bar.
-/

namespace MutationViewer
namespace Fragment

/-- One leading `#` is a mark of the address and not of the fragment. -/
def dropMark : List Char -> List Char
  | '#' :: rest => rest
  | text => text

/-- The kept form of a fragment. -/
def normalize (raw : String) : String :=
  String.ofList (dropMark (Text.trim raw.toList))

/-- An absent fragment is the empty one. -/
def ofOption (raw : Option String) : String :=
  normalize (raw.getD "")

theorem normalize_empty : normalize "" = "" := rfl

theorem ofOption_some (raw : String) : ofOption (some raw) = normalize raw := rfl

end Fragment

/-- The entries of the bar and the place of the current one among them. -/
structure History where
  entries : List String
  index : Nat
  index_lt : index < entries.length

namespace History

def ofFragment (raw : String) : History where
  entries := [Fragment.normalize raw]
  index := 0
  index_lt := by simp

def fragment (history : History) : String :=
  history.entries.get ⟨history.index, history.index_lt⟩

theorem index_lt_write (history : History) (fragment : String) :
    history.index + 1 < (history.entries.take (history.index + 1) ++ [fragment]).length := by
  have bound := history.index_lt
  rw [List.length_append, List.length_take, List.length_singleton]
  omega

/-- Show a fragment in its kept form: `none` when it is on show already. -/
def write? (history : History) (raw : String) : Option History :=
  if Fragment.normalize raw = history.fragment then none
  else
    some {
      entries := history.entries.take (history.index + 1) ++ [Fragment.normalize raw]
      index := history.index + 1
      index_lt := history.index_lt_write (Fragment.normalize raw) }

def back? (history : History) : Option History :=
  if history.index = 0 then none
  else some { history with
    index := history.index - 1
    index_lt := Nat.lt_of_le_of_lt (Nat.sub_le _ _) history.index_lt }

def forward? (history : History) : Option History :=
  if ahead : history.index + 1 < history.entries.length then
    some { history with index := history.index + 1, index_lt := ahead }
  else none

theorem fragment_ofFragment (raw : String) :
    (ofFragment raw).fragment = Fragment.normalize raw := rfl

theorem write?_eq_none_iff (history : History) (raw : String) :
    history.write? raw = none ↔ Fragment.normalize raw = history.fragment := by
  unfold write?
  split <;> simp_all

theorem fragment_of_write? {history next : History} {raw : String}
    (written : history.write? raw = some next) :
    next.fragment = Fragment.normalize raw := by
  unfold write? at written
  split at written
  · exact absurd written (by simp)
  · cases written
    have bound : history.index + 1 ≤ history.entries.length := history.index_lt
    have length : (history.entries.take (history.index + 1)).length = history.index + 1 := by
      rw [List.length_take]
      omega
    simp only [fragment, List.get_eq_getElem]
    rw [List.getElem_append_right (by omega)]
    simp

theorem entries_of_write? {history next : History} {raw : String}
    (written : history.write? raw = some next) :
    next.entries = history.entries.take (history.index + 1) ++ [Fragment.normalize raw] ∧
      next.index = history.index + 1 := by
  unfold write? at written
  split at written
  · exact absurd written (by simp)
  · cases written
    exact ⟨rfl, rfl⟩

theorem entries_of_back? {history next : History} (moved : history.back? = some next) :
    next.entries = history.entries ∧ next.index + 1 = history.index := by
  unfold back? at moved
  split at moved
  · exact absurd moved (by simp)
  · next behind =>
      cases moved
      exact ⟨rfl, Nat.succ_pred behind⟩

theorem entries_of_forward? {history next : History} (moved : history.forward? = some next) :
    next.entries = history.entries ∧ next.index = history.index + 1 := by
  unfold forward? at moved
  split at moved
  · cases moved
    exact ⟨rfl, rfl⟩
  · exact absurd moved (by simp)

inductive Step where
  | write (raw : Option String)
  | back
  | forward

/-- What one use of the bar comes to.  Only moves have an answer of their own. -/
structure Outcome where
  history : History
  answer : Option Bool
  changed : Bool

/-- An attempted move says whether it moved. -/
def Outcome.ofMove (history : History) : Option History -> Outcome
  | some next => ⟨next, some true, true⟩
  | none => ⟨history, some false, false⟩

/-- Carry out one use of the bar.  An edit by the reader is a write. -/
def step (history : History) : Step -> Outcome
  | .write raw =>
      match history.write? (raw.getD "") with
      | some next => ⟨next, none, true⟩
      | none => ⟨history, none, false⟩
  | .back => Outcome.ofMove history history.back?
  | .forward => Outcome.ofMove history history.forward?

theorem Outcome.history_ofMove (history : History) (moved : Option History) :
    (ofMove history moved).history = moved.getD history := by
  cases moved <;> rfl

theorem Outcome.answer_ofMove (history : History) (moved : Option History) :
    (ofMove history moved).answer = some moved.isSome := by
  cases moved <;> rfl

theorem history_step_write (history : History) (raw : Option String) :
    (history.step (.write raw)).history = (history.write? (raw.getD "")).getD history := by
  unfold step
  dsimp only
  split
  · next wrote => rw [wrote, Option.getD_some]
  · next wrote => rw [wrote, Option.getD_none]

/-- A use that is not announced leaves the history as it was. -/
theorem history_step_of_unchanged {history : History} {use : Step}
    (unchanged : (history.step use).changed = false) : (history.step use).history = history := by
  unfold step at unchanged ⊢
  cases use with
  | write raw => cases wrote : history.write? (raw.getD "") <;> simp_all
  | back => cases moved : history.back? <;> simp_all [Outcome.ofMove]
  | forward => cases moved : history.forward? <;> simp_all [Outcome.ofMove]

/-- The calls that a use of the bar makes on its listeners, which are numbered
in the order of their subscription. -/
def Outcome.calls (outcome : Outcome) (listeners : Nat) : List (Nat × String) :=
  if outcome.changed then
    (List.range listeners).map fun listener => (listener, outcome.history.fragment)
  else []

end History

end MutationViewer
