import MutationViewer.Proofs.History.Entries
import MutationViewer.Proofs.Source.Runs

/-!
# What a view does to the history of its bar

A change of the bar is heard by the link; the link selects; a selection is announced; and what
is announced may be written to the bar, which changes it again.  The circle ends because what
the link selects is performed quietly.  So a use of the bar comes to what it would come to
without a view; a fragment that is delivered by itself, and restoring, leave the history alone;
and whatever else is asked for writes to the bar once at the most.  Nothing is asked of the
ids: an id that the bar changes may come back and select something else, but it is not written
a second time.
-/

namespace MutationViewer
namespace SourceView

def history? (view : SourceView) : Option History :=
  view.link.map Link.history

variable (view : SourceView)

theorem history?_followFragment (fragment : String) :
    (view.followFragment fragment).history? = view.history? := by
  rw [history?, history?, (view.followFragment_spec fragment).2]
  split
  · rw [Option.map_map]
    rfl
  · rfl

@[simp] theorem history?_follow (raw : Option String) :
    (view.follow raw).history? = view.history? := by
  unfold follow
  split
  · rfl
  · dsimp only
    split
    · rfl
    · exact view.history?_followFragment _

theorem history?_hear (history : History) :
    (view.hear history).history? = view.history?.map fun _ => history := by
  change ((view.withHistory history).follow _).history? = _
  rw [history?_follow, history?, withHistory, Option.map_map, history?, Option.map_map]
  rfl

theorem history?_restore : view.restore.history? = view.history? := by
  cases linked : view.link with
  | none => rw [restore, linked]
  | some link =>
      rw [history?, (restore_spec linked rfl).2, history?, linked]
      split <;> rfl

/-- Leading the bar is writing the fragment of the selection, whatever the link answers. -/
theorem history?_lead (cause : Cause) :
    (view.lead cause).history? = view.history?.map fun history =>
      (history.step (.write (some (fragmentOf cause view.selection)))).history := by
  unfold lead
  split
  · next unlinked => simp [history?, unlinked]
  · next link linked =>
      dsimp only
      split
      · next wrote =>
          simp [history?, withFollowed, linked, History.history_step_write, wrote]
      · next written wrote =>
          rw [history?_hear]
          simp [history?, withFollowed, linked, History.history_step_write, wrote]

theorem history?_perform_of_cause {move : Move} {cause : Cause}
    (spoken : move.cause = some cause) :
    (view.perform move).history? = view.history?.map fun history =>
      (history.step (.write (some (fragmentOf cause move.selection)))).history := by
  have selected : (view.carryOut move).selection = move.selection := by
    rw [selection, viewer_carryOut]
    rfl
  have carried : (view.carryOut move).history? = view.history? := by
    rw [history?, link_carryOut, history?]
  rw [history?, (view.perform_frame move).2, spoken]
  change ((view.carryOut move).lead cause).history? = _
  rw [history?_lead, selected, carried]

theorem history?_perform (move : Move) :
    (view.perform move).history? = view.history? ∨
      ∃ fragment, (view.perform move).history? = view.history?.map fun history =>
        (history.step (.write (some fragment))).history := by
  cases spoken : move.cause with
  | none =>
      left
      rw [history?, link_perform_of_no_cause view spoken, history?]
  | some cause => exact .inr ⟨_, view.history?_perform_of_cause spoken⟩

theorem Acts.history? {view next : SourceView} (acts : view.Acts next) :
    next.history? = view.history? ∨
      ∃ fragment, next.history? = view.history?.map fun history =>
        (history.step (.write (some fragment))).history := by
  cases acts with
  | idle => exact .inl rfl
  | performed move => exact view.history?_perform move
  | switched switch => exact history?_perform _ _

/-- A use of the bar comes to what it would come to without a view. -/
theorem history?_useBar (use : History.Step) :
    (view.useBar use).1.history? = view.history?.map fun history =>
      (history.step use).history := by
  unfold useBar
  split
  · next unlinked => simp [history?, unlinked]
  · next link linked =>
      dsimp only
      split
      · rw [history?_hear]
        simp [history?, linked]
      · next unchanged =>
          have same := History.history_step_of_unchanged (Bool.not_eq_true _ ▸ unchanged)
          simp [history?, linked, same]

/-! ## Steps -/

/-- What a step may do to the history, and what a use of the bar answers.  A use of the bar comes
to what it would come to without a view, and going back or forward changes no entry.  What is
delivered or restored changes nothing.  Anything else pushes one entry at the most. -/
def Browses (before after : History) (answer : Option Bool) : Step -> Prop
  | .bar use =>
      after = (before.step use).history ∧ answer = (before.step use).answer ∧
        (use = .back ∨ use = .forward -> before.Moves after)
  | .restore | .address _ => after = before
  | _ => after = before ∨ ∃ fragment, before.Pushes fragment after

variable {view} {before : History}

theorem browses_of_selects {step : Step} (selects : step.selects = true) {after : History}
    (pushed : after = before ∨ ∃ fragment, before.Pushes fragment after) (answer : Option Bool) :
    Browses before after answer step := by
  cases step with
  | bar | restore | address => cases selects
  | _ => exact pushed

theorem Acts.exists_pushed {next : SourceView} (acts : view.Acts next)
    (shown : view.history? = some before) :
    ∃ after, next.history? = some after ∧
      (after = before ∨ ∃ fragment, before.Pushes fragment after) := by
  rcases acts.history? with same | ⟨fragment, written⟩
  · exact ⟨before, same.trans shown, .inl rfl⟩
  · rw [shown] at written
    exact ⟨_, written,
      (before.write_eq_or_pushes (some fragment)).imp_right fun pushes => ⟨_, pushes⟩⟩

theorem browses_useBar (shown : view.history? = some before) (use : History.Step) :
    ∃ after, (view.useBar use).1.history? = some after ∧
      Browses before after (view.useBar use).2 (.bar use) := by
  have answered : (view.useBar use).2 = (before.step use).answer := by
    rcases Option.map_eq_some_iff.mp shown with ⟨link, linked, rfl⟩
    simp [useBar, linked]
  refine ⟨(before.step use).history, ?_, rfl, answered, ?_⟩
  · rw [history?_useBar, shown, Option.map_some]
  · rintro (rfl | rfl)
    · exact before.moves_back
    · exact before.moves_forward

theorem browses_of_step {step : Step} {outcome : Outcome} (taken : view.step step = .ok outcome)
    (shown : view.history? = some before) :
    ∃ after, outcome.view.history? = some after ∧ Browses before after outcome.answer step := by
  cases selects : step.selects with
  | true =>
      rcases (acts_of_step selects taken).exists_pushed shown with ⟨after, shownThen, pushed⟩
      exact ⟨after, shownThen, browses_of_selects selects pushed outcome.answer⟩
  | false =>
      cases step with
      | bar use => cases taken; exact browses_useBar shown use
      | restore => cases taken; exact ⟨before, view.history?_restore.trans shown, rfl⟩
      | address raw => cases taken; exact ⟨before, (view.history?_follow raw).trans shown, rfl⟩
      | _ => cases selects

/-- No run of a page fails, and none loses the bar. -/
theorem exists_run_history {report : Report} (coherent : report.Coherent)
    (settings : SourceSettings) (bar : Option History) (steps : List Step) :
    ∃ view history, (load report settings bar).run steps = .ok view ∧
      view.viewer.report = report ∧ view.viewer.Consistent ∧ view.history? = some history := by
  have restored : (Viewer.ofReport report settings).Keeps (load report settings bar).viewer :=
    (ofReport report settings settings.keys (some (bar.getD (.ofFragment "")))).keeps_restore
  have unrestored := consistent_ofReport report settings settings.keys none
  have shown : (load report settings bar).history?.isSome := by
    rw [load, history?_restore]
    rfl
  have opened : (load report settings bar).viewer.report = report ∧
      (load report settings bar).viewer.Consistent ∧ (load report settings bar).history?.isSome :=
    ⟨restored.report_eq, restored.consistent coherent unrestored, shown⟩
  have ended : ∃ view, (load report settings bar).run steps = .ok view ∧
      view.viewer.report = report ∧ view.viewer.Consistent ∧ view.history?.isSome := by
    apply exists_run (fun view => view.viewer.report = report ∧ view.viewer.Consistent ∧
      view.history?.isSome) (fun _ => True) _ steps (fun _ _ => trivial) opened
    rintro view step - ⟨reportEq, consistent, shown⟩
    have coherentHere : view.viewer.report.Coherent := reportEq.symm ▸ coherent
    rcases exists_step coherentHere consistent step with ⟨outcome, taken⟩
    rcases Option.isSome_iff_exists.mp shown with ⟨history, shown⟩
    rcases browses_of_step taken shown with ⟨after, shownThen, -⟩
    have kept := keeps_of_step taken
    exact ⟨outcome, taken, kept.report_eq.trans reportEq,
      kept.consistent coherentHere consistent, by rw [shownThen]; rfl⟩
  rcases ended with ⟨view, ran, reportEq, consistent, shown⟩
  rcases Option.isSome_iff_exists.mp shown with ⟨history, shown⟩
  exact ⟨view, history, ran, reportEq, consistent, shown⟩

/-- Over a report from a dataset, whatever its ids are, take a page in any state that a run from
loading leads to, and any step from there.  It does not fail.  A use of the bar changes the
history as it would without a page, and going back or forward changes no entry of it; a fragment
that is delivered, and restoring, change nothing; and any other step leaves the history as it is
or puts one new entry in the place of those ahead, which is on show then. -/
theorem no_phantom_entries_along_runs {data : Json} {report : Report} {notes : List Note}
    (accepted : Report.ofJson data = .ok (report, notes)) (settings : SourceSettings)
    (bar : Option History) (steps : List Step) :
    ∃ view link, (load report settings bar).run steps = .ok view ∧ view.link = some link ∧
      forall step, ∃ outcome next, view.step step = .ok outcome ∧
        outcome.view.link = some next ∧
        Browses link.history next.history outcome.answer step := by
  have coherent := Report.coherent_of_ofJson accepted
  rcases exists_run_history coherent settings bar steps
    with ⟨view, history, ran, reportEq, consistent, shown⟩
  rcases Option.map_eq_some_iff.mp shown with ⟨link, linked, rfl⟩
  refine ⟨view, link, ran, linked, fun step => ?_⟩
  rcases exists_step (reportEq.symm ▸ coherent) consistent step with ⟨outcome, taken⟩
  rcases browses_of_step taken shown with ⟨after, shownThen, browses⟩
  rcases Option.map_eq_some_iff.mp shownThen with ⟨next, nextLinked, rfl⟩
  exact ⟨outcome, next, taken, nextLinked, browses⟩

/-- On the small report: going back leaves the entry of the third location's mutant ahead, and
jumping to another mutant puts one entry in its place. -/
theorem no_phantom_entries_on_sample :
    Report.ofJson Report.sampleData = .ok (Report.sample, []) ∧
      ∃ view link outcome next, (load Report.sample .standard none).run
          [.goTo "L2" false, .jumpTo "M3", .bar .back] = .ok view ∧ view.link = some link ∧
        view.step (.jumpTo "M1") = .ok outcome ∧ outcome.view.link = some next ∧
        Browses link.history next.history outcome.answer (.jumpTo "M1") ∧
        link.history.entries = ["", "L2", "M3"] ∧ next.history.entries = ["", "L2", "M1"] := by
  refine ⟨Report.sample_accepted, ?_⟩
  rcases no_phantom_entries_along_runs Report.sample_accepted .standard none
    [.goTo "L2" false, .jumpTo "M3", .bar .back] with ⟨view, link, ran, linked, each⟩
  rcases each (.jumpTo "M1") with ⟨outcome, next, taken, nextLinked, browses⟩
  have entries : ((load Report.sample .standard none).run
      [.goTo "L2" false, .jumpTo "M3", .bar .back]).toOption.bind (fun view =>
        (view.step (.jumpTo "M1")).toOption.map fun outcome =>
          (view.link.map fun link => link.history.entries,
            outcome.view.link.map fun link => link.history.entries)) =
      some (some ["", "L2", "M3"], some ["", "L2", "M1"]) := by
    decide +kernel
  rw [ran] at entries
  simp only [Except.toOption, Option.bind_some, taken, Option.map_some, linked, nextLinked]
    at entries
  rcases Prod.mk.inj (Option.some.inj entries) with ⟨before, after⟩
  exact ⟨view, link, outcome, next, ran, linked, taken, nextLinked, browses,
    Option.some.inj before, Option.some.inj after⟩

end SourceView
end MutationViewer
