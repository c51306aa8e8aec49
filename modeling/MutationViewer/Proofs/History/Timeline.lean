import MutationViewer.Proofs.History.Entries

/-!
# The history as its reader knows it

To a reader there is what is on show, and what lies behind and ahead of it.  What is written
leaves nothing ahead, and a move takes one entry from one side to the other.  The bar has one
list instead, and the place of the current entry in it.  It is shown that the two stay the same
through any mix of writes and moves.
-/

namespace MutationViewer

/-- What lies behind, oldest first; what is on show; and what lies ahead, nearest first. -/
structure Timeline where
  past : List String
  current : String
  future : List String

namespace Timeline

def ofFragment (raw : String) : Timeline where
  past := []
  current := Fragment.normalize raw
  future := []

/-- Show the kept form of a text, unless it is on show already. -/
def write? (timeline : Timeline) (raw : String) : Option Timeline :=
  if Fragment.normalize raw = timeline.current then none
  else some {
    past := timeline.past ++ [timeline.current]
    current := Fragment.normalize raw
    future := [] }

def back? (timeline : Timeline) : Option Timeline :=
  timeline.past.getLast?.map fun entry => {
    past := timeline.past.dropLast
    current := entry
    future := timeline.current :: timeline.future }

def forward? (timeline : Timeline) : Option Timeline :=
  match timeline.future with
  | [] => none
  | entry :: future => some {
      past := timeline.past ++ [timeline.current]
      current := entry
      future := future }

/-- What is asked of the timeline, if anything comes of it. -/
def step? (timeline : Timeline) : History.Step -> Option Timeline
  | .write raw => timeline.write? (raw.getD "")
  | .back => timeline.back?
  | .forward => timeline.forward?

/-- A move is answered with whether there was anywhere to move to; a write is not answered. -/
def answer (timeline : Timeline) : History.Step -> Option Bool
  | .write _ => none
  | .back => some !timeline.past.isEmpty
  | .forward => some !timeline.future.isEmpty

def run (timeline : Timeline) (uses : List History.Step) : Timeline :=
  uses.foldl (fun timeline use => (timeline.step? use).getD timeline) timeline

theorem isSome_back? (timeline : Timeline) :
    timeline.back?.isSome = !timeline.past.isEmpty := by
  cases past : timeline.past using List.reverseRecOn <;> simp [back?, past]

theorem isSome_forward? (timeline : Timeline) :
    timeline.forward?.isSome = !timeline.future.isEmpty := by
  unfold forward?
  cases timeline.future <;> rfl

end Timeline

namespace History

/-- The entries of the bar are those of the timeline, and the current one has its place behind
the past. -/
structure Tells (history : History) (timeline : Timeline) : Prop where
  entries_eq : history.entries = timeline.past ++ [timeline.current] ++ timeline.future
  index_eq : history.index = timeline.past.length

variable {history : History} {timeline : Timeline}

theorem tells_ofFragment (raw : String) : (ofFragment raw).Tells (.ofFragment raw) :=
  ⟨rfl, rfl⟩

theorem Tells.fragment_eq (tells : history.Tells timeline) :
    history.fragment = timeline.current := by
  have shown := history.getElem?_index
  rw [tells.entries_eq, tells.index_eq] at shown
  simpa using shown.symm

theorem Tells.take_eq (tells : history.Tells timeline) :
    history.entries.take (history.index + 1) = timeline.past ++ [timeline.current] := by
  rw [take_index_succ, tells.fragment_eq, tells.entries_eq, tells.index_eq]
  simp

theorem Tells.write? (tells : history.Tells timeline) (raw : String) :
    Option.Rel Tells (history.write? raw) (timeline.write? raw) := by
  cases wrote : history.write? raw with
  | none =>
      have same := (write?_eq_none_iff history raw).mp wrote
      rw [Timeline.write?, if_pos (same.trans tells.fragment_eq)]
      exact .none
  | some next =>
      have pushes := pushes_of_write? wrote
      rw [Timeline.write?, if_neg (tells.fragment_eq ▸ pushes.changed)]
      refine .some ⟨?_, ?_⟩
      · rw [pushes.entries_eq, tells.take_eq, List.append_nil]
      · rw [pushes.index_eq, tells.index_eq, List.length_append, List.length_singleton]

theorem Tells.back? (tells : history.Tells timeline) :
    Option.Rel Tells history.back? timeline.back? := by
  rcases timeline with ⟨past, current, future⟩
  cases past using List.reverseRecOn with
  | nil =>
      have first : history.index = 0 := tells.index_eq
      rw [History.back?, if_pos first]
      exact .none
  | append_singleton past entry =>
      have index : history.index = past.length + 1 := by simpa using tells.index_eq
      have back : (Timeline.mk (past ++ [entry]) current future).back? =
          some ⟨past, entry, current :: future⟩ := by
        simp [Timeline.back?]
      rw [back, History.back?, if_neg (by omega)]
      refine .some ⟨?_, ?_⟩
      · simpa using tells.entries_eq
      · simp [index]

theorem Tells.forward? (tells : history.Tells timeline) :
    Option.Rel Tells history.forward? timeline.forward? := by
  rcases timeline with ⟨past, current, future⟩
  have length : history.entries.length = past.length + 1 + future.length := by
    rw [tells.entries_eq, List.length_append, List.length_append, List.length_singleton]
  have index : history.index = past.length := tells.index_eq
  unfold History.forward?
  cases future with
  | nil =>
      rw [dif_neg (by simp [length, index])]
      exact .none
  | cons entry future =>
      rw [dif_pos (by simp [length, index])]
      refine .some ⟨?_, ?_⟩
      · simpa using tells.entries_eq
      · simp [index]

/-- What is attempted on both sides comes to the same, also where nothing comes of it. -/
theorem Tells.of_attempt (tells : history.Tells timeline) {moved : Option History}
    {other : Option Timeline} (attempted : Option.Rel Tells moved other) :
    (moved.getD history).Tells (other.getD timeline) ∧ moved.isSome = other.isSome := by
  cases attempted with
  | none => exact ⟨tells, rfl⟩
  | some told => exact ⟨told, rfl⟩

/-- A use of the bar is the same use of the timeline, and is answered in the same way. -/
theorem Tells.step (tells : history.Tells timeline) (use : Step) :
    (history.step use).history.Tells ((timeline.step? use).getD timeline) ∧
      (history.step use).answer = timeline.answer use := by
  cases use with
  | write raw =>
      refine ⟨?_, ?_⟩
      · rw [history_step_write]
        exact (tells.of_attempt (tells.write? (raw.getD ""))).1
      · unfold History.step
        dsimp only
        split <;> rfl
  | back =>
      rcases tells.of_attempt tells.back? with ⟨told, answered⟩
      refine ⟨?_, ?_⟩
      · rw [History.step, Outcome.history_ofMove]
        exact told
      · rw [History.step, Outcome.answer_ofMove, answered, Timeline.isSome_back?]
        rfl
  | forward =>
      rcases tells.of_attempt tells.forward? with ⟨told, answered⟩
      refine ⟨?_, ?_⟩
      · rw [History.step, Outcome.history_ofMove]
        exact told
      · rw [History.step, Outcome.answer_ofMove, answered, Timeline.isSome_forward?]
        rfl

theorem Tells.run (tells : history.Tells timeline) (uses : List Step) :
    (history.run uses).Tells (timeline.run uses) := by
  induction uses generalizing history timeline with
  | nil => exact tells
  | cons use uses ih => exact ih (tells.step use).1

/-- Begin with any fragment and use the bar in any way.  The fragment on show is the one that the
timeline shows, the entries are what lies behind, what is on show and what lies ahead, and the
next use is answered as the timeline answers it.  No two neighbouring entries are equal.  A use
that changes the fragment calls every listener once, in the order of their subscription, with
the new fragment, and any other use calls none. -/
theorem bar_shows_timeline_along_runs (raw : String) (uses : List Step) :
    ∃ history timeline, (ofFragment raw).run uses = history ∧
      (Timeline.ofFragment raw).run uses = timeline ∧
      history.fragment = timeline.current ∧
      history.entries = timeline.past ++ [timeline.current] ++ timeline.future ∧
      history.entries.IsChain (· ≠ ·) ∧
      forall use, (history.step use).answer = timeline.answer use ∧
        forall listeners, (history.step use).calls listeners =
          if (history.step use).history.fragment = history.fragment then []
          else (List.range listeners).map fun listener =>
            (listener, (history.step use).history.fragment) := by
  have tells := (tells_ofFragment raw).run uses
  have regular := (regular_ofFragment raw).run uses
  exact ⟨_, _, rfl, rfl, tells.fragment_eq, tells.entries_eq, regular.differ, fun use =>
    ⟨(tells.step use).2, regular.calls_eq use⟩⟩

/-- Going back twice and writing forgets both entries ahead, also for the timeline. -/
example :
    let uses := [Step.write (some "a"), .write (some "#b"), .back, .back, .write (some "c")]
    ((ofFragment "").run uses).entries = ["", "c"] ∧
      ((Timeline.ofFragment "").run uses).past = [""] := by
  decide +kernel

end History
end MutationViewer
