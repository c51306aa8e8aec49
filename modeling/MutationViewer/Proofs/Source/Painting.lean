import MutationViewer.Proofs.Source.Runs

/-!
# The screen beside the selection

The screen keeps what was painted last, and every move paints only what it takes to have
changed: the location, the picker, the replacement of the active mutant, or nothing.  A part
that is forgotten by one of them would show an old selection from then on.  None is forgotten,
over any report, also where its parts contradict each other; and what the link selects between
the commands of a step and its end is painted like everything else.
-/

namespace MutationViewer

/-- The screen shows the selection: the active location, its candidates, the id of the active
mutant, and the mutant itself with its panel unless it is hidden. -/
structure Screen.Shows (screen : Screen) (viewer : Viewer) : Prop where
  location : screen.location = viewer.selection.location
  candidates : screen.candidates = viewer.candidates
  activeId : screen.activeId = viewer.selection.mutant.map Mutant.id
  mutant : screen.mutant = if viewer.selection.shows then viewer.selection.mutant else none
  info : screen.info =
    if viewer.selection.shows then viewer.selection.mutant.map viewer.panel else none

namespace Viewer

variable {viewer : Viewer} {screen : Screen}

/-- The replacement and its panel are painted together, and nothing else is. -/
theorem apply_paintMutant (viewer : Viewer) (screen : Screen) :
    screen.apply viewer.paintMutant =
      { screen with
        mutant := if viewer.selection.shows then viewer.selection.mutant else none
        info := if viewer.selection.shows then viewer.selection.mutant.map viewer.panel
          else none } := by
  unfold paintMutant
  cases viewer.selection.mutant with
  | none => cases viewer.selection.shows <;> rfl
  | some mutant => cases viewer.selection.shows <;> rfl

/-- On a screen with the active location, painting the picker brings everything up to date,
whatever was shown there. -/
theorem shows_paintPicker (located : screen.location = viewer.selection.location) :
    (screen.applyAll viewer.paintPicker).Shows viewer := by
  change ((screen.apply _).apply viewer.paintMutant).Shows viewer
  rw [apply_paintMutant]
  exact ⟨located, rfl, rfl, rfl, rfl⟩

/-- The commands of the move lead from what is selected to what is selected after it. -/
def Repaints (viewer : Viewer) (move : Move) : Prop :=
  forall screen : Screen, screen.Shows viewer ->
    (screen.applyAll move.paints).Shows (viewer.withSelection move.selection)

theorem repaints_stay (answer : Bool) (note : Option Note) :
    viewer.Repaints (viewer.stay answer note) :=
  fun _ shown => shown

theorem repaints_goTo (id : String) (preserve : Bool) :
    viewer.Repaints (viewer.goTo id preserve) := by
  unfold goTo
  split
  · exact repaints_stay _ _
  · intro screen shown
    exact shows_paintPicker rfl

theorem repaints_choose (entry : Option String) : viewer.Repaints (viewer.choose entry) := by
  unfold choose
  split
  · exact repaints_stay _ _
  · next location active =>
      intro screen shown
      exact shows_paintPicker (shown.location.trans active)

theorem repaints_jumpTo (id : String) : viewer.Repaints (viewer.jumpTo id) := by
  unfold jumpTo
  split
  · next mutant location _ _ =>
      split
      · intro screen shown
        dsimp only
        rw [Screen.applyAll_append]
        apply shows_paintPicker
        by_cases same : viewer.selection.location = some location
        · rw [if_pos same]
          exact shown.location.trans same
        · rw [if_neg same]
          rfl
      · exact repaints_stay _ _
  · exact repaints_stay _ _

theorem repaints_flip : viewer.Repaints viewer.flip := by
  intro screen shown
  change (screen.apply (viewer.withSelection _).paintMutant).Shows (viewer.withSelection _)
  rw [apply_paintMutant]
  exact ⟨shown.location, shown.candidates, shown.activeId, rfl, rfl⟩

theorem Elementary.repaints {move : Move} (elementary : viewer.Elementary move) :
    viewer.Repaints move := by
  cases elementary with
  | stay answer note => exact repaints_stay answer note
  | goTo id preserve => exact repaints_goTo id preserve
  | choose entry => exact repaints_choose entry
  | jumpTo id => exact repaints_jumpTo id
  | flip => exact repaints_flip

/-- A switch is painted once it is taken notice of.  Without a location nothing is painted,
and there are no candidates that could have changed. -/
theorem shows_afterSwitch (shown : screen.Shows viewer) (switch : Filters.Switch) :
    (screen.applyAll ((viewer.switched switch).afterSwitch switch).paints).Shows
      ((viewer.switched switch).withSelection
        ((viewer.switched switch).afterSwitch switch).selection) := by
  unfold afterSwitch
  split
  · next unlocated =>
      refine ⟨shown.location, ?_, shown.activeId, shown.mutant, shown.info⟩
      have nowhere : viewer.selection.location = none := unlocated
      refine shown.candidates.trans ?_
      change viewer.candidates = (viewer.switched switch).candidates
      rw [candidates, candidates, unlocated, nowhere]
      rfl
  · next location located => exact shows_paintPicker (shown.location.trans located)

end Viewer

namespace SourceView

variable {view : SourceView}

/-! ## What a view does -/

/-- The screen of the view shows what the view has selected. -/
def UpToDate (view : SourceView) : Prop :=
  view.screen.Shows view.viewer

@[simp] theorem screen_note (view : SourceView) (note : Option Note) :
    (view.note note).screen = view.screen := by
  cases note <;> rfl

@[simp] theorem screen_carryOut (view : SourceView) (move : Move) :
    (view.carryOut move).screen = view.screen.applyAll move.paints := by
  change (SourceView.note _ move.note).screen.applyAll move.paints = _
  rw [screen_note]

@[simp] theorem screen_performQuietly (view : SourceView) (move : Move) :
    (view.performQuietly move).screen = view.screen.applyAll move.paints := by
  unfold performQuietly
  cases move.cause <;> simp [announce]

namespace UpToDate

theorem carryOut (upToDate : view.UpToDate) {move : Move}
    (elementary : view.viewer.Elementary move) : (view.carryOut move).UpToDate := by
  rw [UpToDate, screen_carryOut, viewer_carryOut]
  exact elementary.repaints view.screen upToDate

theorem performQuietly (upToDate : view.UpToDate) {move : Move}
    (elementary : view.viewer.Elementary move) : (view.performQuietly move).UpToDate := by
  rw [UpToDate, screen_performQuietly, viewer_performQuietly]
  exact elementary.repaints view.screen upToDate

/-- What is brought into view is no part of the selection. -/
theorem center (upToDate : view.UpToDate) (element : String) : (view.center element).UpToDate :=
  ⟨upToDate.location, upToDate.candidates, upToDate.activeId, upToDate.mutant, upToDate.info⟩

theorem announce (upToDate : view.UpToDate) (announcement : Announcement) :
    (view.announce announcement).UpToDate :=
  upToDate

theorem settle (upToDate : view.UpToDate) (fragment : String) (followed : Bool) :
    (view.settle fragment followed).UpToDate := by
  cases followed with
  | true => exact upToDate
  | false => exact upToDate

theorem selectNamed (upToDate : view.UpToDate) (fragment : String) :
    (view.selectNamed fragment).1.UpToDate := by
  unfold SourceView.selectNamed
  split
  · exact upToDate
  · split
    · dsimp only
      split
      · exact (upToDate.performQuietly (view.viewer.elementary_jumpTo fragment)).center fragment
      · exact upToDate.performQuietly (view.viewer.elementary_jumpTo fragment)
    · exact (upToDate.performQuietly (view.viewer.elementary_goTo fragment false)).center fragment
    · exact upToDate

theorem clearNamed (upToDate : view.UpToDate) (fragment : String) :
    (view.clearNamed fragment).1.UpToDate := by
  unfold SourceView.clearNamed
  split
  · exact upToDate.performQuietly (view.viewer.elementary_choose none)
  · exact upToDate

theorem followFragment (upToDate : view.UpToDate) (fragment : String) :
    (view.followFragment fragment).UpToDate := by
  have named := upToDate.selectNamed fragment
  unfold SourceView.followFragment
  dsimp only
  split
  · exact named.settle fragment true
  · exact (named.clearNamed fragment).settle fragment _

theorem follow (upToDate : view.UpToDate) (raw : Option String) :
    (view.follow raw).UpToDate := by
  unfold SourceView.follow
  split
  · exact upToDate
  · dsimp only
    split
    · exact upToDate
    · exact upToDate.followFragment _

theorem hear (upToDate : view.UpToDate) (history : History) : (view.hear history).UpToDate := by
  have told : (view.withHistory history).UpToDate := upToDate
  exact told.follow (some history.fragment)

/-- What the link selects in answer to a write is painted before the step goes on. -/
theorem lead (upToDate : view.UpToDate) (cause : Cause) : (view.lead cause).UpToDate := by
  unfold SourceView.lead
  split
  · exact upToDate
  · dsimp only
    split
    · exact upToDate
    · next written _ =>
        have remembered : (view.withFollowed (fragmentOf cause view.selection)).UpToDate :=
          upToDate
        exact remembered.hear written

theorem centerFrom (upToDate : view.UpToDate) (before : Option Location) :
    (view.centerFrom before).UpToDate := by
  unfold SourceView.centerFrom
  split
  · exact upToDate
  · split
    · exact upToDate.center _
    · exact upToDate

/-- Once a move is carried out, telling everyone leaves the screen up to date. -/
theorem perform {move : Move} (carried : (view.carryOut move).UpToDate) :
    (view.perform move).UpToDate :=
  view.perform_of_told (fun _ before upToDate => upToDate.centerFrom before) (fun _ => carried)
    fun cause _ => (carried.lead cause).announce _

theorem switch (upToDate : view.UpToDate) (switch : Filters.Switch) :
    (view.switch switch).1.UpToDate := by
  apply perform
  rw [UpToDate, screen_carryOut, viewer_carryOut]
  exact Viewer.shows_afterSwitch upToDate switch

theorem restore (upToDate : view.UpToDate) : view.restore.UpToDate := by
  unfold SourceView.restore
  split
  · exact upToDate
  · have started := upToDate.performQuietly view.viewer.elementary_start
    dsimp only
    exact (started.selectNamed _).settle _ _

theorem useBar (upToDate : view.UpToDate) (use : History.Step) :
    (view.useBar use).1.UpToDate := by
  unfold SourceView.useBar
  split
  · exact upToDate
  · dsimp only
    split
    · exact upToDate.hear _
    · exact upToDate

theorem of_acts (upToDate : view.UpToDate) {next : SourceView} (acts : view.Acts next) :
    next.UpToDate := by
  cases acts with
  | idle => exact upToDate
  | performed move elementary => exact perform (upToDate.carryOut elementary)
  | switched switch => exact upToDate.switch switch

theorem of_step (upToDate : view.UpToDate) {step : Step} {outcome : Outcome}
    (taken : view.step step = .ok outcome) : outcome.view.UpToDate := by
  cases selects : step.selects with
  | true => exact upToDate.of_acts (acts_of_step selects taken)
  | false =>
      cases step with
      | bar use => cases taken; exact upToDate.useBar use
      | restore => cases taken; exact upToDate.restore
      | address raw => cases taken; exact upToDate.follow raw
      | _ => cases selects

end UpToDate

/-- The view after a step; a step that fails has changed nothing. -/
def after (view : SourceView) (step : Step) : SourceView :=
  match view.step step with
  | .ok outcome => outcome.view
  | .error _ => view

/-- Take steps one after the other, whether they fail or not. -/
def runThrough (view : SourceView) (steps : List Step) : SourceView :=
  steps.foldl after view

theorem UpToDate.after (upToDate : view.UpToDate) (step : Step) :
    (view.after step).UpToDate := by
  unfold SourceView.after
  split
  · next outcome taken => exact upToDate.of_step taken
  · exact upToDate

theorem UpToDate.runThrough (upToDate : view.UpToDate) (steps : List Step) :
    (view.runThrough steps).UpToDate := by
  induction steps generalizing view with
  | nil => exact upToDate
  | cons step steps ih => exact ih (upToDate.after step)

/-- Take any report, any settings, any keys, a bar or none, and any run of steps, whether they
fail or not: the screen shows what is selected then. -/
theorem screen_shows_selection_along_runs (report : Report) (settings : SourceSettings)
    (keys : Keys) (bar : Option History) (steps : List Step) :
    ((ofReport report settings keys bar).runThrough steps).screen.Shows
      ((ofReport report settings keys bar).runThrough steps).viewer := by
  have blank : (ofReport report settings keys bar).UpToDate := ⟨rfl, rfl, rfl, rfl, rfl⟩
  exact blank.runThrough steps

/-- A report in which a mutant stands under another id than its own, so that the second
location lists the active mutant and still does not offer it. -/
def strayReport : Report where
  locations := [⟨"L1", ["A"]⟩, ⟨"L2", ["B"]⟩]
  mutants := .ofList [("A", Report.sampleMutant "B" "alive" "ror")]
  statusLabels := []
  kindLabels := []
  kills := .empty

/-- There a traversal fails, and the screen goes on showing the mutant. -/
example :
    let view := (ofReport strayReport .standard .standard none).runThrough
      [.jumpTo "A", .goTo "L2" true]
    (view.step (.walkMutants (some .forward) true)).map Outcome.answer =
        .error (.strayMutant "B") ∧
      (view.after (.walkMutants (some .forward) true)).screen.mutant.map Mutant.id = some "B" := by
  decide +kernel

end SourceView
end MutationViewer
