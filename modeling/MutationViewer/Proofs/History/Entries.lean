import Mathlib.Data.List.Chain
import MutationViewer.History
import MutationViewer.Proofs.History.Fragment

/-!
# The entries of the history

A use of the bar that does something either pushes a new entry or moves to the entry before or
after the current one.  What every use keeps is read off from these two: each entry is the kept
form of some text, and neighbouring entries differ, because a write of the fragment on show is
refused and moving changes no entry.  So a move that is made shows another fragment, and the
listeners are called exactly when the fragment changes.

What is on show has been brought into its kept form when it was written, and writing it again
brings it there a second time.  That finds nothing to drop unless the first time has uncovered
a blank or a mark at the beginning, which is the only way in which a kept form can be left
unkept.  So the bar takes a write of its own fragment for a new one exactly if the fragment
begins in that way; it is then pushed in a shorter form, and the listeners hear of it.
-/

namespace MutationViewer
namespace History

variable {history next : History}

/-- One new fragment, other than the one on show, has taken the place of the entries ahead, and
is on show now. -/
structure Pushes (history : History) (fragment : String) (next : History) : Prop where
  entries_eq : next.entries = history.entries.take (history.index + 1) ++ [fragment]
  index_eq : next.index = history.index + 1
  shown : next.fragment = fragment
  changed : fragment ≠ history.fragment

theorem pushes_of_write? {raw : String} (written : history.write? raw = some next) :
    history.Pushes (Fragment.normalize raw) next where
  entries_eq := (entries_of_write? written).1
  index_eq := (entries_of_write? written).2
  shown := fragment_of_write? written
  changed same := by
    rw [(write?_eq_none_iff history raw).mpr same] at written
    cases written

theorem write_eq_or_pushes (history : History) (raw : Option String) :
    (history.step (.write raw)).history = history ∨
      history.Pushes (Fragment.ofOption raw) (history.step (.write raw)).history := by
  rw [history_step_write]
  cases wrote : history.write? (raw.getD "") with
  | none => exact .inl rfl
  | some next => exact .inr (pushes_of_write? wrote)

/-- The entries are the same, and at most the neighbour of the current one is on show now. -/
structure Moves (history next : History) : Prop where
  entries_eq : next.entries = history.entries
  index_le : next.index ≤ history.index + 1
  le_index : history.index ≤ next.index + 1

theorem moves_refl (history : History) : history.Moves history :=
  ⟨rfl, Nat.le_succ _, Nat.le_succ _⟩

theorem moves_back (history : History) : history.Moves (history.step .back).history := by
  change history.Moves (Outcome.ofMove history history.back?).history
  rw [Outcome.history_ofMove]
  cases moved : history.back? with
  | none => exact history.moves_refl
  | some next =>
      rcases entries_of_back? moved with ⟨entries, index⟩
      exact ⟨entries, by rw [Option.getD_some]; omega, Nat.le_of_eq index.symm⟩

theorem moves_forward (history : History) : history.Moves (history.step .forward).history := by
  change history.Moves (Outcome.ofMove history history.forward?).history
  rw [Outcome.history_ofMove]
  cases moved : history.forward? with
  | none => exact history.moves_refl
  | some next =>
      rcases entries_of_forward? moved with ⟨entries, index⟩
      exact ⟨entries, Nat.le_of_eq index, by rw [Option.getD_some]; omega⟩

/-! ## What every use keeps -/

theorem getElem?_index (history : History) :
    history.entries[history.index]? = some history.fragment :=
  List.getElem?_eq_getElem history.index_lt

theorem fragment_mem (history : History) : history.fragment ∈ history.entries :=
  List.mem_of_getElem? history.getElem?_index

theorem take_index_succ (history : History) :
    history.entries.take (history.index + 1) =
      history.entries.take history.index ++ [history.fragment] := by
  rw [List.take_add_one, history.getElem?_index, Option.toList_some]

/-- All entries are kept forms of texts, and neighbours differ. -/
structure Regular (history : History) : Prop where
  kept : ∀ entry ∈ history.entries, ∃ raw, Fragment.normalize raw = entry
  differ : history.entries.IsChain (· ≠ ·)

theorem regular_ofFragment (raw : String) : (ofFragment raw).Regular where
  kept _ member := ⟨raw, (List.mem_singleton.mp member).symm⟩
  differ := .singleton _

theorem Regular.of_entries_eq (regular : history.Regular)
    (entriesEq : next.entries = history.entries) : next.Regular where
  kept := entriesEq ▸ regular.kept
  differ := entriesEq ▸ regular.differ

theorem Regular.of_pushes (regular : history.Regular) {raw : String}
    (pushes : history.Pushes (Fragment.normalize raw) next) : next.Regular where
  kept entry member := by
    rw [pushes.entries_eq, List.mem_append, List.mem_singleton] at member
    rcases member with earlier | rfl
    · exact regular.kept entry (List.mem_of_mem_take earlier)
    · exact ⟨raw, rfl⟩
  differ := by
    rw [pushes.entries_eq]
    refine (regular.differ.take _).append (.singleton _) ?_
    rw [take_index_succ, List.getLast?_concat, List.head?_cons]
    rintro shown ⟨⟩ pushed ⟨⟩
    exact pushes.changed.symm

theorem Regular.step (regular : history.Regular) (use : Step) :
    (history.step use).history.Regular := by
  cases use with
  | write raw =>
      rcases history.write_eq_or_pushes raw with same | pushes
      · rw [same]
        exact regular
      · exact regular.of_pushes pushes
  | back => exact regular.of_entries_eq history.moves_back.entries_eq
  | forward => exact regular.of_entries_eq history.moves_forward.entries_eq

def run (history : History) (uses : List Step) : History :=
  uses.foldl (fun history use => (history.step use).history) history

theorem Regular.run (regular : history.Regular) (uses : List Step) :
    (history.run uses).Regular := by
  induction uses generalizing history with
  | nil => exact regular
  | cons use uses ih => exact ih (regular.step use)

/-- Of two neighbouring entries, each is a change from the other. -/
theorem Regular.fragment_ne (regular : history.Regular) (entriesEq : next.entries = history.entries)
    (follows : next.index = history.index + 1) : next.fragment ≠ history.fragment := by
  rcases next with ⟨entries, index, bound⟩
  dsimp only at entriesEq follows
  subst entriesEq follows
  exact (List.isChain_iff_getElem.mp regular.differ history.index bound).symm

/-- What is called a change is one. -/
theorem Regular.changed_iff (regular : history.Regular) (use : Step) :
    (history.step use).changed = true ↔
      (history.step use).history.fragment ≠ history.fragment := by
  unfold History.step
  cases use with
  | write raw =>
      dsimp only
      cases wrote : history.write? (raw.getD "") with
      | none => simp
      | some next =>
          have pushes := pushes_of_write? wrote
          simpa [pushes.shown] using pushes.changed
  | back =>
      dsimp only
      cases moved : history.back? with
      | none => simp [Outcome.ofMove]
      | some next =>
          rcases entries_of_back? moved with ⟨entriesEq, index⟩
          have differs := (regular.of_entries_eq entriesEq).fragment_ne entriesEq.symm index.symm
          simpa [Outcome.ofMove] using differs.symm
  | forward =>
      dsimp only
      cases moved : history.forward? with
      | none => simp [Outcome.ofMove]
      | some next =>
          rcases entries_of_forward? moved with ⟨entriesEq, index⟩
          simpa [Outcome.ofMove] using regular.fragment_ne entriesEq index

/-- A use that changes the fragment calls every listener once, in the order of their
subscription, with the new fragment; any other use calls none. -/
theorem Regular.calls_eq (regular : history.Regular) (use : Step) (listeners : Nat) :
    (history.step use).calls listeners =
      if (history.step use).history.fragment = history.fragment then []
      else (List.range listeners).map fun listener =>
        (listener, (history.step use).history.fragment) := by
  unfold Outcome.calls
  by_cases same : (history.step use).history.fragment = history.fragment
  · rw [if_neg fun changed => (regular.changed_iff use).mp changed same, if_pos same]
  · rw [if_pos ((regular.changed_iff use).mpr same), if_neg same]

end History

/-! ## Writing what is on show -/

namespace History

open Fragment

/-- Write the fragment that is on show. -/
def writeAgain (history : History) : Outcome :=
  history.step (.write (some history.fragment))

/-- Nothing has come of a use: entries and place are the same, and nobody has been called. -/
structure Unnoticed (history : History) (outcome : Outcome) : Prop where
  entries_eq : outcome.history.entries = history.entries
  index_eq : outcome.history.index = history.index
  silent : forall listeners, outcome.calls listeners = []

variable {history : History}

/-- The fragment on show is its own kept form exactly if it begins as one. -/
theorem Regular.normalize_fragment_iff (regular : history.Regular) :
    normalize history.fragment = history.fragment ↔ BeginsBare history.fragment := by
  rcases regular.kept _ history.fragment_mem with ⟨raw, kept⟩
  rw [← kept]
  exact normalize_normalize_iff raw

/-- Where it is, nothing comes of writing it. -/
theorem unnoticed_writeAgain (same : normalize history.fragment = history.fragment) :
    history.Unnoticed history.writeAgain := by
  have refused := (write?_eq_none_iff history history.fragment).mpr same
  have nothing : history.writeAgain = ⟨history, none, false⟩ := by
    simp only [writeAgain, step, Option.getD_some, refused]
  rw [nothing]
  exact ⟨rfl, rfl, fun _ => rfl⟩

/-- Where it is not, the shorter form is pushed and every listener is called. -/
theorem writeAgain_of_ne (changes : normalize history.fragment ≠ history.fragment) :
    history.Pushes (normalize history.fragment) history.writeAgain.history ∧
      forall listeners, history.writeAgain.calls listeners =
        (List.range listeners).map fun listener => (listener, normalize history.fragment) := by
  cases wrote : history.write? history.fragment with
  | none => exact absurd ((write?_eq_none_iff history history.fragment).mp wrote) changes
  | some next =>
      have pushes := pushes_of_write? wrote
      have pushed : history.writeAgain = ⟨next, none, true⟩ := by
        simp only [writeAgain, step, Option.getD_some, wrote]
      rw [pushed]
      exact ⟨pushes, fun listeners => by simp [Outcome.calls, pushes.shown]⟩

/-- Begin with any fragment and use the bar in any way.  Writing the fragment on show goes
unnoticed exactly if the fragment begins neither with a blank nor with a mark.  Otherwise its
kept form, which is shorter, takes the place of the entries ahead, and every listener is called
with it. -/
theorem writeAgain_unnoticed_iff (raw : String) (uses : List Step) :
    ∃ history, (ofFragment raw).run uses = history ∧
      (history.Unnoticed history.writeAgain ↔ BeginsBare history.fragment) ∧
      (¬ BeginsBare history.fragment ->
        history.Pushes (normalize history.fragment) history.writeAgain.history ∧
        (normalize history.fragment).length < history.fragment.length ∧
        forall listeners, history.writeAgain.calls listeners =
          (List.range listeners).map fun listener => (listener, normalize history.fragment)) := by
  have regular := (regular_ofFragment raw).run uses
  refine ⟨_, rfl, ?_, ?_⟩
  · rw [← regular.normalize_fragment_iff]
    constructor
    · intro unnoticed
      by_contra changes
      have pushed := (writeAgain_of_ne changes).1.index_eq
      rw [unnoticed.index_eq] at pushed
      exact absurd pushed (Nat.ne_of_lt (Nat.lt_succ_self _))
    · exact unnoticed_writeAgain
  · intro loose
    have changes := mt regular.normalize_fragment_iff.mp loose
    rcases writeAgain_of_ne changes with ⟨pushes, called⟩
    exact ⟨pushes, length_normalize_lt changes, called⟩

/-- The bar keeps one of two marks, and drops it when the fragment is written again. -/
theorem doubled_mark_written_anew :
    (ofFragment "##a").fragment = "#a" ∧
      ((ofFragment "##a").step (.write (some "#a"))).history.entries = ["#a", "a"] ∧
      ((ofFragment "##a").step (.write (some "#a"))).history.index = 1 ∧
      ((ofFragment "##a").step (.write (some "#a"))).calls 1 = [(0, "a")] := by
  decide +kernel

end History
end MutationViewer
