
import MutationViewer.Proofs.Source.Following
import MutationViewer.Source.Step

/-!
# Selections along a run

A run is a list of steps, taken one after the other.  Whatever a step does, the view ends where
moves, switches of the filters and followed fragments have led it, the ones that the link makes
in answer to the view's own announcements included.  Each of these keeps a selection consistent
and an active location active.  So a run over a report from a dataset never fails, and all
selections on the way are consistent.

A view that is not linked to a bar is easier to follow than one that is: nothing answers its
announcements, so it ends just where its moves lead, and steps that use the bar or deliver a
fragment do nothing at all.
-/

namespace MutationViewer

/-- The report and the settings stay, an active location is not lost, and a
consistent selection stays consistent. -/
structure Viewer.Keeps (before after : Viewer) : Prop where
  report_eq : after.report = before.report
  settings_eq : after.settings = before.settings
  location_isSome : before.selection.location.isSome -> after.selection.location.isSome
  consistent : before.report.Coherent -> before.Consistent -> after.Consistent

namespace Viewer

variable {viewer : Viewer}

theorem Keeps.refl (viewer : Viewer) : viewer.Keeps viewer :=
  ⟨rfl, rfl, id, fun _ consistent => consistent⟩

theorem Keeps.trans {first second third : Viewer} (before : first.Keeps second)
    (after : second.Keeps third) : first.Keeps third where
  report_eq := after.report_eq.trans before.report_eq
  settings_eq := after.settings_eq.trans before.settings_eq
  location_isSome active := after.location_isSome (before.location_isSome active)
  consistent coherent consistent :=
    after.consistent (before.report_eq ▸ coherent) (before.consistent coherent consistent)

theorem Reaches.keeps {selection : Selection} {cause : Option Cause}
    (reached : viewer.Reaches selection cause) : viewer.Keeps (viewer.withSelection selection) :=
  ⟨rfl, rfl, reached.location_isSome, reached.consistent⟩

theorem keeps_named? (fragment : String) :
    viewer.Keeps (viewer.withSelection ((viewer.named? fragment).getD viewer.selection)) := by
  cases named : viewer.named? fragment with
  | none => exact .refl viewer
  | some selection =>
      rcases reaches_of_named? named with ⟨cause, reached⟩
      exact reached.keeps

theorem keeps_restored? (fragment : String) :
    viewer.Keeps (viewer.withSelection ((viewer.restored? fragment).getD viewer.selection)) := by
  unfold restored?
  split
  · exact .refl viewer
  · exact keeps_named? fragment

theorem keeps_afterSwitch (switch : Filters.Switch) :
    viewer.Keeps ((viewer.switched switch).withSelection
      ((viewer.switched switch).afterSwitch switch).selection) where
  report_eq := rfl
  settings_eq := rfl
  location_isSome active := by
    rcases Option.isSome_iff_exists.mp active with ⟨location, located⟩
    have located : (viewer.switched switch).selection.location = some location := located
    simp [withSelection, afterSwitch, located]
  consistent _ consistent := consistent.afterSwitch switch

end Viewer

namespace SourceView

variable (view : SourceView)

theorem keeps_follow (raw : Option String) : view.viewer.Keeps (view.follow raw).viewer := by
  cases linked : view.link with
  | none =>
      rw [follow_of_no_link linked]
      exact .refl _
  | some link =>
      by_cases same : Fragment.ofOption raw = link.followed
      · rw [follow_of_followed linked same]
        exact .refl _
      · rw [follow_of_ne_followed linked same, (view.followFragment_spec _).1]
        exact Viewer.keeps_named? _

theorem keeps_hear (history : History) : view.viewer.Keeps (view.hear history).viewer :=
  (view.withHistory history).keeps_follow (some history.fragment)

/-- Writing the bar may make the link select something else at once. -/
theorem keeps_lead (cause : Cause) : view.viewer.Keeps (view.lead cause).viewer := by
  unfold lead
  split
  · exact .refl _
  · dsimp only
    split
    · exact .refl _
    · exact (view.withFollowed _).keeps_hear _

@[simp] theorem viewer_centerFrom (before : Option Location) :
    (view.centerFrom before).viewer = view.viewer := by
  unfold centerFrom
  split
  · rfl
  · split <;> rfl

@[simp] theorem link_centerFrom (before : Option Location) :
    (view.centerFrom before).link = view.link := by
  unfold centerFrom
  split
  · rfl
  · split <;> rfl

/-- Centering comes last: what it keeps holds after a move if it holds once everyone is told. -/
theorem perform_of_told {Holds : SourceView -> Prop} {move : Move}
    (centered : forall told before, Holds told -> Holds (told.centerFrom before))
    (silent : move.cause = none -> Holds (view.carryOut move))
    (spoken : forall cause, move.cause = some cause ->
      Holds (((view.carryOut move).lead cause).announce ⟨cause, move.selection⟩)) :
    Holds (view.perform move) := by
  have centers {told : SourceView} (holds : Holds told) (before : Option Location) :
      Holds (if move.centers && move.answer && view.viewer.settings.centering
        then told.centerFrom before else told) := by
    split
    · exact centered told before holds
    · exact holds
  unfold perform
  cases cause : move.cause with
  | none => exact centers (silent cause) _
  | some asked => exact centers (spoken asked cause) _

theorem perform_frame (move : Move) :
    (view.perform move).viewer = (match move.cause with
      | none => view.carryOut move
      | some cause => (view.carryOut move).lead cause).viewer ∧
    (view.perform move).link = (match move.cause with
      | none => view.carryOut move
      | some cause => (view.carryOut move).lead cause).link := by
  unfold perform
  cases move.cause <;> dsimp only <;> split <;> simp

theorem viewer_perform_of_no_cause {move : Move} (silent : move.cause = none) :
    (view.perform move).viewer = view.viewer.withSelection move.selection := by
  rw [(view.perform_frame move).1, silent, viewer_carryOut]

theorem link_perform_of_no_cause {move : Move} (silent : move.cause = none) :
    (view.perform move).link = view.link := by
  rw [(view.perform_frame move).2, silent, link_carryOut]

/-- Telling everyone of a move keeps what carrying it out has kept. -/
theorem keeps_perform {viewer : Viewer} {move : Move}
    (carried : viewer.Keeps (view.viewer.withSelection move.selection)) :
    viewer.Keeps (view.perform move).viewer := by
  rw [(view.perform_frame move).1]
  rw [← viewer_carryOut view move] at carried
  cases move.cause with
  | none => exact carried
  | some cause => exact carried.trans ((view.carryOut move).keeps_lead cause)

theorem keeps_switch (switch : Filters.Switch) :
    view.viewer.Keeps (view.switch switch).1.viewer :=
  keeps_perform _ (Viewer.keeps_afterSwitch switch)

theorem keeps_restore : view.viewer.Keeps view.restore.viewer := by
  cases linked : view.link with
  | none =>
      rw [restore, linked]
      exact .refl _
  | some link =>
      have started : view.viewer.Keeps view.viewer.started := view.viewer.allows_start.keeps
      rw [(restore_spec linked rfl).1]
      exact started.trans (Viewer.keeps_restored? _)

theorem keeps_useBar (use : History.Step) : view.viewer.Keeps (view.useBar use).1.viewer := by
  unfold useBar
  split
  · exact .refl _
  · dsimp only
    split
    · exact view.keeps_hear _
    · exact .refl _

/-! ## What a step asks for -/

/-- Whether a step asks the view itself for a selection.  The others use the
bar or deliver a fragment. -/
def Step.selects : Step -> Bool
  | .bar _ | .restore | .address _ => false
  | _ => true

/-- What a step asks of a view, as far as the viewer and the keys decide it. -/
inductive Request (viewer : Viewer) where
  | pass (answer : Bool)
  | move (move : Move) (elementary : viewer.Elementary move) (answer : Bool)
  | switch (switch : Filters.Switch)

def grant {viewer : Viewer} (view : SourceView) : Request viewer -> Outcome
  | .pass answer => ⟨view, some answer⟩
  | .move move _ answer => ⟨view.perform move, some answer⟩
  | .switch switch => ⟨(view.switch switch).1, some (view.switch switch).2⟩

/-- The step asks the same of all views that share the viewer and the keys, and fails only as
a traversal of mutants does. -/
structure Asks (viewer : Viewer) (keys : Keys) (step : Step)
    (request : Except Viewer.WalkFault (Request viewer)) : Prop where
  granted : forall view : SourceView, view.viewer = viewer -> view.keys = keys ->
    view.step step = request.map view.grant
  failed : forall fault, request = .error fault ->
    ∃ amount center, viewer.walkMutants amount center = .error fault

section

variable {viewer : Viewer} {keys : Keys} {step : Step}

theorem exists_asks_of_pass (answer : Bool)
    (taken : forall view : SourceView, view.viewer = viewer -> view.keys = keys ->
      view.step step = .ok ⟨view, some answer⟩) :
    ∃ request, Asks viewer keys step request :=
  ⟨.ok (.pass answer), taken, fun fault impossible => by cases impossible⟩

theorem exists_asks_of_move {move : Move} (elementary : viewer.Elementary move)
    (answer : Move -> Bool)
    (taken : forall view : SourceView, view.viewer = viewer -> view.keys = keys ->
      view.step step = .ok ⟨view.perform move, some (answer move)⟩) :
    ∃ request, Asks viewer keys step request :=
  ⟨.ok (.move move elementary (answer move)), taken, nofun⟩

theorem exists_asks_of_walkMutants (amount : Option Direction) (center : Bool)
    (answer : Move -> Bool)
    (taken : forall view : SourceView, view.viewer = viewer -> view.keys = keys ->
      view.step step = (viewer.walkMutants amount center).map fun move =>
        ⟨view.perform move, some (answer move)⟩) :
    ∃ request, Asks viewer keys step request := by
  cases walked : viewer.walkMutants amount center with
  | error fault =>
      rw [walked] at taken
      refine ⟨.error fault, taken, fun other same => ?_⟩
      cases same
      exact ⟨amount, center, walked⟩
  | ok move =>
      rw [walked] at taken
      exact ⟨.ok (.move move (viewer.elementary_of_walkMutants walked) (answer move)), taken,
        nofun⟩

/-- A key that is bound to nothing is passed on. -/
theorem exists_asks_key (code : String) : ∃ request, Asks viewer keys (.key code) request := by
  cases bound : keys.action? code with
  | none =>
      apply exists_asks_of_pass false
      rintro view - rfl
      simp only [SourceView.step, pressKey, bound]
  | some action =>
      cases action with
      | location direction =>
          have elementary := viewer.elementary_walkLocations (some direction)
          apply exists_asks_of_move elementary fun _ => true
          rintro view rfl rfl
          simp only [SourceView.step, pressKey, bound]
      | mutant direction =>
          apply exists_asks_of_walkMutants (some direction) true fun _ => true
          rintro view rfl rfl
          simp only [SourceView.step, pressKey, bound]
      | flip =>
          apply exists_asks_of_move .flip fun _ => true
          rintro view rfl rfl
          simp only [SourceView.step, pressKey, bound]

/-- The wheel asks for something only over the active location. -/
theorem exists_asks_wheel (location : Option String) (amount : Option Direction) :
    ∃ request, Asks viewer keys (.wheel location amount) request := by
  by_cases active : ∃ here, viewer.selection.location = some here ∧ location = some here.id ∧
      amount.isSome
  · rcases active with ⟨here, located, hovered, turned⟩
    apply exists_asks_of_walkMutants amount false Move.answer
    rintro view rfl -
    simp only [SourceView.step, turnWheel, selection, located]
    rw [if_pos ⟨hovered, turned⟩]
    rfl
  · apply exists_asks_of_pass false
    rintro view rfl -
    simp only [SourceView.step, turnWheel, selection]
    cases located : view.viewer.selection.location with
    | none => rfl
    | some here =>
        dsimp only
        rw [if_neg fun turned => active ⟨here, located, turned⟩]

/-- A click asks for the location that is clicked, and elsewhere for the active one. -/
theorem exists_asks_click (location : Option String) :
    ∃ request, Asks viewer keys (.click location) request := by
  cases clicked : location.bind viewer.report.location? with
  | some found =>
      apply exists_asks_of_move (viewer.elementary_goTo found.id false) Move.answer
      rintro view rfl -
      simp only [SourceView.step, click, clickTarget?, clicked]
      rfl
  | none =>
      cases located : viewer.selection.location with
      | none =>
          apply exists_asks_of_pass false
          rintro view rfl -
          simp only [SourceView.step, click, clickTarget?, clicked, selection, located]
          rfl
      | some active =>
          apply exists_asks_of_move (viewer.elementary_goTo active.id false) Move.answer
          rintro view rfl -
          simp only [SourceView.step, click, clickTarget?, clicked, selection, located]
          rfl

end

/-- Every step that asks for a selection asks the same of all views that share the viewer. -/
theorem exists_asks (viewer : Viewer) (keys : Keys) {step : Step} (selects : step.selects = true) :
    ∃ request, Asks viewer keys step request := by
  cases step with
  | start =>
      apply exists_asks_of_move viewer.elementary_start Move.answer
      rintro view rfl -
      rfl
  | goTo id preserve =>
      apply exists_asks_of_move (viewer.elementary_goTo id preserve) Move.answer
      rintro view rfl -
      rfl
  | choose entry | picker entry =>
      apply exists_asks_of_move (viewer.elementary_choose entry) Move.answer
      rintro view rfl -
      rfl
  | jumpTo id =>
      apply exists_asks_of_move (viewer.elementary_jumpTo id) Move.answer
      rintro view rfl -
      rfl
  | walkLocations amount =>
      apply exists_asks_of_move (viewer.elementary_walkLocations amount) Move.answer
      rintro view rfl -
      rfl
  | walkMutants amount center =>
      apply exists_asks_of_walkMutants amount center Move.answer
      rintro view rfl -
      rfl
  | flip => exact exists_asks_of_move .flip Move.answer (by rintro view rfl -; rfl)
  | switch value => exact ⟨.ok (.switch value), fun view _ _ => rfl, nofun⟩
  | key code => exact exists_asks_key code
  | wheel location amount => exact exists_asks_wheel location amount
  | click location => exact exists_asks_click location
  | bar | restore | address => cases selects

/-- What a step that asks for a selection comes to. -/
inductive Acts (view : SourceView) : SourceView -> Prop where
  | idle : Acts view view
  | performed (move : Move) (elementary : view.viewer.Elementary move) :
      Acts view (view.perform move)
  | switched (switch : Filters.Switch) : Acts view (view.switch switch).1

variable {view}

/-- Every such step performs a move, switches a filter, or does nothing. -/
theorem acts_of_step {step : Step} {outcome : Outcome} (selects : step.selects = true)
    (taken : view.step step = .ok outcome) : view.Acts outcome.view := by
  rcases exists_asks view.viewer view.keys selects with ⟨request, asks⟩
  rw [asks.granted view rfl rfl] at taken
  cases request with
  | error fault => cases taken
  | ok request =>
      cases taken
      cases request with
      | pass answer => exact .idle
      | move move elementary answer => exact .performed move elementary
      | switch switch => exact .switched switch

theorem Acts.keeps {next : SourceView} (acts : view.Acts next) :
    view.viewer.Keeps next.viewer := by
  cases acts with
  | idle => exact .refl _
  | performed move elementary =>
      exact view.keeps_perform (Viewer.Reaches.keeps elementary.allows)
  | switched switch => exact view.keeps_switch switch

theorem keeps_of_step {step : Step} {outcome : Outcome}
    (taken : view.step step = .ok outcome) : view.viewer.Keeps outcome.view.viewer := by
  cases selects : step.selects with
  | true => exact (acts_of_step selects taken).keeps
  | false =>
      cases step with
      | bar use => cases taken; exact view.keeps_useBar use
      | restore => cases taken; exact view.keeps_restore
      | address raw => cases taken; exact view.keeps_follow raw
      | _ => cases selects

/-- From a consistent selection no step fails. -/
theorem exists_step (coherent : view.viewer.report.Coherent)
    (consistent : view.viewer.Consistent) (step : Step) :
    ∃ outcome, view.step step = .ok outcome := by
  cases selects : step.selects with
  | true =>
      rcases exists_asks view.viewer view.keys selects with ⟨request, asks⟩
      cases request with
      | error fault =>
          rcases asks.failed fault rfl with ⟨amount, center, failed⟩
          rcases consistent.exists_walkMutants coherent amount center with ⟨move, walked⟩
          rw [walked] at failed
          cases failed
      | ok request => exact ⟨_, asks.granted view rfl rfl⟩
  | false =>
      cases step with
      | bar | restore | address => exact ⟨_, rfl⟩
      | _ => cases selects

/-! ## Runs -/

/-- Take steps one after the other, up to the first that fails. -/
def run (view : SourceView) : List Step -> Except Viewer.WalkFault SourceView
  | [] => .ok view
  | step :: steps =>
      match view.step step with
      | .ok outcome => outcome.view.run steps
      | .error fault => .error fault

/-- What can be read of the view that a run leads to can be computed from the run. -/
theorem eq_of_run {Value : Type} {opened view : SourceView} {steps : List Step}
    (ran : opened.run steps = .ok view) (read : SourceView -> Value) {value : Value}
    (computed : (opened.run steps).toOption.map read = some value) : read view = value := by
  rw [ran] at computed
  exact Option.some.inj computed

/-- What every step of a kind keeps, runs of such steps keep, and they do not
fail if no such step does. -/
theorem exists_run (invariant : SourceView -> Prop) (kind : Step -> Prop)
    (stepKeeps : forall view step, kind step -> invariant view ->
      ∃ outcome, view.step step = .ok outcome ∧ invariant outcome.view)
    (steps : List Step) (kinds : ∀ step ∈ steps, kind step) (initial : invariant view) :
    ∃ later, view.run steps = .ok later ∧ invariant later := by
  induction steps generalizing view with
  | nil => exact ⟨view, rfl, initial⟩
  | cons step steps ih =>
      rcases stepKeeps view step (kinds step List.mem_cons_self) initial with ⟨outcome, taken, kept⟩
      obtain ⟨later, ran, holds⟩ :=
        ih (fun other member => kinds other (List.mem_cons_of_mem _ member)) kept
      exact ⟨later, by rw [run, taken]; exact ran, holds⟩

/-- From a consistent selection no run fails, whatever its steps are. -/
theorem exists_run_keeps (coherent : view.viewer.report.Coherent)
    (consistent : view.viewer.Consistent) (steps : List Step) :
    ∃ later, view.run steps = .ok later ∧ view.viewer.Keeps later.viewer := by
  apply exists_run (fun later => view.viewer.Keeps later.viewer) (fun _ => True) _ steps
    (fun _ _ => trivial) (.refl _)
  intro later step _ kept
  have laterCoherent : later.viewer.report.Coherent := kept.report_eq ▸ coherent
  rcases exists_step laterCoherent (kept.consistent coherent consistent) step with ⟨outcome, taken⟩
  exact ⟨outcome, taken, kept.trans (keeps_of_step taken)⟩

theorem consistent_ofReport (report : Report) (settings : SourceSettings) (keys : Keys)
    (bar : Option History) : (ofReport report settings keys bar).viewer.Consistent :=
  Viewer.consistent_of_no_selection rfl rfl

/-- Over a report from a dataset, no run of steps fails, be there a link to a bar
or not.  Wherever a run leads, the active location is one of the document's; the
active mutant is the report's own, is listed by the active location and is one
of its candidates; and no further run loses the active location. -/
theorem selection_sound_along_runs {data : Json} {report : Report} {notes : List Note}
    (accepted : Report.ofJson data = .ok (report, notes)) (settings : SourceSettings)
    (keys : Keys) (bar : Option History) (steps : List Step) :
    ∃ view, (ofReport report settings keys bar).run steps = .ok view ∧
      (forall mutant, view.selection.mutant = some mutant ->
        report.mutant? mutant.id = some mutant ∧
        view.viewer.filters.passes mutant = true ∧
        mutant ∈ view.viewer.candidates ∧
        ∃ location, view.selection.location = some location ∧ mutant.id ∈ location.mutantIds) ∧
      (forall location, view.selection.location = some location -> location ∈ report.locations) ∧
      forall more, ∃ later, view.run more = .ok later ∧
        (view.selection.location.isSome -> later.selection.location.isSome) := by
  have coherent := Report.coherent_of_ofJson accepted
  obtain ⟨view, ran, kept⟩ :=
    exists_run_keeps coherent (consistent_ofReport report settings keys bar) steps
  have sameReport : view.viewer.report = report := kept.report_eq
  have consistent : view.viewer.Consistent :=
    kept.consistent coherent (consistent_ofReport report settings keys bar)
  refine ⟨view, ran, ?_, ?_, ?_⟩
  · intro mutant active
    have candidate := consistent.mem_candidates (sameReport ▸ coherent) active
    exact ⟨sameReport ▸ consistent.mutant_known active, consistent.mutant_passes active, candidate,
      consistent.mutant_listed active⟩
  · intro location active
    exact sameReport ▸ consistent.location_mem active
  · intro more
    rcases exists_run_keeps (sameReport ▸ coherent) consistent more with ⟨later, ranOn, keptOn⟩
    exact ⟨later, ranOn, keptOn.location_isSome⟩

/-- On the small report: the traversal falls through from the last location to
the first, a filter then clears the mutant, and going back cannot select it. -/
theorem selection_sound_on_sample :
    Report.ofJson Report.sampleData = .ok (Report.sample, []) ∧
      ∃ view, (ofReport Report.sample .standard .standard (some (.ofFragment "M3"))).run
          [.restore, .walkMutants (some .forward) true, .walkMutants (some .forward) true,
            .switch (.status "killed"), .bar .back] = .ok view ∧
        view.selection.location = some ⟨"L1", ["M1", "M2"]⟩ ∧
        ⟨"L1", ["M1", "M2"]⟩ ∈ Report.sample.locations := by
  refine ⟨Report.sample_accepted, ?_⟩
  rcases selection_sound_along_runs Report.sample_accepted .standard .standard
    (some (.ofFragment "M3"))
    [.restore, .walkMutants (some .forward) true, .walkMutants (some .forward) true,
      .switch (.status "killed"), .bar .back] with ⟨view, ran, -, located, -⟩
  have reached : ((ofReport Report.sample .standard .standard (some (.ofFragment "M3"))).run
      [.restore, .walkMutants (some .forward) true, .walkMutants (some .forward) true,
        .switch (.status "killed"), .bar .back]).toOption.bind
      (fun view => view.selection.location) = some ⟨"L1", ["M1", "M2"]⟩ := by
    decide +kernel
  rw [ran] at reached
  exact ⟨view, ran, reached, located _ reached⟩

end SourceView

/-! ## Views without a link -/

namespace SourceView

variable {view : SourceView}

theorem lead_of_no_link (unlinked : view.link = none) (cause : Cause) : view.lead cause = view := by
  simp [lead, unlinked]

theorem viewer_perform_of_no_link (unlinked : view.link = none) (move : Move) :
    (view.perform move).viewer = view.viewer.withSelection move.selection := by
  have carried := (view.link_carryOut move).trans unlinked
  rw [(view.perform_frame move).1]
  cases move.cause with
  | none => exact view.viewer_carryOut move
  | some cause =>
      dsimp only
      rw [lead_of_no_link carried, viewer_carryOut]

theorem link_perform_of_no_link (unlinked : view.link = none) (move : Move) :
    (view.perform move).link = none := by
  have carried := (view.link_carryOut move).trans unlinked
  rw [(view.perform_frame move).2]
  cases move.cause with
  | none => exact carried
  | some cause =>
      dsimp only
      rw [lead_of_no_link carried, carried]

theorem perform_stay_note (view : SourceView) (answer : Bool) (note : Option Note) :
    view.perform (view.viewer.stay answer note) = view.note note := by
  have unpainted : view.carryOut (view.viewer.stay answer note) = view.note note := by
    cases note <;> simp [carryOut, SourceView.note, paint, Viewer.stay, Viewer.withSelection,
      Screen.applyAll]
  unfold perform
  rw [unpainted]
  simp [Viewer.stay]

theorem perform_stay (view : SourceView) (answer : Bool) :
    view.perform (view.viewer.stay answer none) = view :=
  view.perform_stay_note answer none

/-- Every step is one of those that a view without a bar can answer. -/
theorem acts_of_step_of_no_link (unlinked : view.link = none) {step : Step} {outcome : Outcome}
    (taken : view.step step = .ok outcome) : view.Acts outcome.view := by
  cases selects : step.selects with
  | true => exact acts_of_step selects taken
  | false =>
      have same : outcome.view = view := by
        cases step with
        | bar use => cases taken; simp [unlinked]
        | restore => cases taken; simp [SourceView.restore, unlinked]
        | address raw => cases taken; exact follow_of_no_link unlinked raw
        | _ => cases selects
      rw [same]
      exact .idle

/-- A view without a link, with the report and the settings it was opened with and
a selection that fits them. -/
structure Detached (report : Report) (settings : SourceSettings) (view : SourceView) : Prop where
  unlinked : view.link = none
  report_eq : view.viewer.report = report
  settings_eq : view.viewer.settings = settings
  consistent : view.viewer.Consistent

variable {report : Report} {settings : SourceSettings}

theorem Detached.of_acts (coherent : report.Coherent) (detached : Detached report settings view)
    {next : SourceView} (acts : view.Acts next) : Detached report settings next := by
  have kept := acts.keeps
  have consistent := kept.consistent (detached.report_eq.symm ▸ coherent) detached.consistent
  refine ⟨?_, kept.report_eq.trans detached.report_eq,
    kept.settings_eq.trans detached.settings_eq, consistent⟩
  cases acts with
  | idle => exact detached.unlinked
  | performed move => exact link_perform_of_no_link detached.unlinked move
  | switched switch =>
      let switched : SourceView := { view with viewer := view.viewer.switched switch }
      have unlinked : switched.link = none := detached.unlinked
      exact link_perform_of_no_link unlinked _

/-- No run of a view without a bar fails, and the view stays as it was opened but
for its selection and its filters. -/
theorem exists_run_detached (coherent : report.Coherent) (settings : SourceSettings) (keys : Keys)
    (steps : List Step) :
    ∃ view, (ofReport report settings keys none).run steps = .ok view ∧
      Detached report settings view := by
  apply exists_run (Detached report settings) (fun _ => True) _ steps (fun _ _ => trivial)
    ⟨rfl, rfl, rfl, consistent_ofReport report settings keys none⟩
  intro view step _ detached
  rcases exists_step (detached.report_eq.symm ▸ coherent) detached.consistent step
    with ⟨outcome, taken⟩
  exact ⟨outcome, taken, detached.of_acts coherent (acts_of_step_of_no_link detached.unlinked taken)⟩

end SourceView
end MutationViewer
