import MutationViewer.Proofs.Source.Switching
import MutationViewer.Proofs.Source.Picker

/-!
# Announcements

Steps are built from one another: a traversal ends in a choice, in going to a location or in
jumping to a mutant, and each of these has something to announce.  Nothing is announced twice
for that, or before the selection is final, since every step performs one move and the move is
announced when it has been carried out.  What remains to be shown is that a move is answered
with yes just if it has something to announce, and that a refused one leaves nothing but a note.

Only views without a bar are considered here, as a bar may answer an announcement by selecting
something else.
-/

namespace MutationViewer
namespace Viewer

variable {viewer : Viewer}

/-- A move is answered with yes and is told, or it is refused with a note at most. -/
inductive Decided (viewer : Viewer) : Move -> Prop where
  | told (move : Move) (cause : Cause) (answered : move.answer = true)
      (spoken : move.cause = some cause) : Decided viewer move
  | refused (note : Option Note) : Decided viewer (viewer.stay false note)

theorem decided_goTo (id : String) (preserve : Bool) :
    viewer.Decided (viewer.goTo id preserve) := by
  cases found : viewer.report.location? id with
  | none =>
      rw [goTo_of_unknown found]
      exact .refused _
  | some location =>
      rcases goTo_told found preserve with ⟨spoken, answered⟩
      exact .told _ .location answered spoken

theorem decided_jumpTo (id : String) : viewer.Decided (viewer.jumpTo id) := by
  unfold jumpTo
  split
  · split
    · exact .told _ .mutant rfl rfl
    · exact .refused _
  · exact .refused _

theorem decided_start : viewer.Decided viewer.start := by
  unfold start
  split
  · exact .refused none
  · exact decided_goTo _ false

section

variable (coherent : viewer.report.Coherent)

include coherent

/-- The location that a traversal has found is known, so it is always gone to. -/
theorem decided_walkLocations (amount : Option Direction) :
    viewer.Decided (viewer.walkLocations amount) := by
  cases amount with
  | none => exact .refused none
  | some direction =>
      change viewer.Decided (viewer.stepLocation direction)
      unfold stepLocation
      split
      · exact .refused none
      · next location met =>
          rcases Option.bind_eq_some_iff.mp met with ⟨place, -, stands⟩
          have found := coherent.location?_of_mem (List.mem_of_getElem? stands)
          exact .told _ .location rfl (by simp [goTo, found])

theorem decided_goOn {location : Location} (located : viewer.selection.location = some location)
    (member : location ∈ viewer.report.locations) (direction : Direction) (center : Bool) :
    viewer.Decided (viewer.goOn direction center) := by
  cases met : viewer.nextCandidate? direction with
  | none =>
      rw [goOn, met]
      exact .refused none
  | some mutant =>
      rcases List.append_of_mem member with ⟨before, after, split⟩
      rcases goOn_of_met coherent located split met center with ⟨-, answered, spoken⟩
      exact .told _ .mutant answered spoken

theorem decided_stepEntry {location : Location}
    (located : viewer.selection.location = some location)
    (member : location ∈ viewer.report.locations) (direction : Direction) (center : Bool)
    (entry : Nat) : viewer.Decided (viewer.stepEntry direction center entry) := by
  rcases viewer.stepEntry_cases direction center entry with ⟨place, -, chosen⟩ | stayed | gone
  · exact chosen ▸ .told _ .mutant rfl (cause_chooseEntry located place)
  · exact stayed ▸ .refused none
  · exact gone ▸ decided_goOn coherent located member direction center

theorem decided_of_walkMutants (consistent : viewer.Consistent) {amount : Option Direction}
    {center : Bool} {move : Move} (walked : viewer.walkMutants amount center = .ok move) :
    viewer.Decided move := by
  unfold walkMutants at walked
  split at walked
  · next location direction located =>
      cases active : viewer.activeEntry with
      | error fault =>
          rw [active] at walked
          cases walked
      | ok entry =>
          rw [active] at walked
          cases walked
          exact decided_stepEntry coherent located (consistent.location_mem located) direction
            center entry
  · cases walked
    exact .refused none

end

/-- A switch has lost the active mutant just if there was one and is none any more. -/
theorem Consistent.loses_iff_cleared (consistent : viewer.Consistent) (switch : Filters.Switch) :
    viewer.loses [switch] = true ↔ viewer.selection.mutant.isSome ∧
      ((viewer.switched switch).afterSwitch switch).selection.mutant = none := by
  rw [consistent.afterSwitch_selection, consistent.filter_passes_switched]
  cases lost : viewer.loses [switch] with
  | false =>
      cases active : viewer.selection.mutant <;> simp
  | true =>
      rcases (viewer.loses_eq_true_iff [switch]).mp lost with ⟨mutant, active, -⟩
      simp [active]

end Viewer

namespace SourceView

/-! ## What a step announces -/

/-- Whether a step asks for a move that is refused when it cannot be made. -/
def Step.moves : Step -> Bool
  | .start | .goTo _ _ | .jumpTo _ | .walkLocations _ | .walkMutants _ _ => true
  | _ => false

/-- One announcement is made, of the selection as it is afterwards. -/
def Announces (view next : SourceView) : Prop :=
  ∃ cause, next.announcements = view.announcements ++ [⟨cause, next.selection⟩]

/-- No announcement is made, and there is nothing to announce. -/
structure Silent (view next : SourceView) : Prop where
  announcements_eq : next.announcements = view.announcements
  location_eq : next.selection.location = view.selection.location
  mutant_eq : next.selection.mutant = view.selection.mutant

variable {view : SourceView}

theorem silent_refl (view : SourceView) : view.Silent view :=
  ⟨rfl, rfl, rfl⟩

theorem silent_perform {move : Move} (silent : move.cause = none)
    (locationEq : move.selection.location = view.selection.location)
    (mutantEq : move.selection.mutant = view.selection.mutant) :
    view.Silent (view.perform move) := by
  have selected : (view.perform move).selection = move.selection := by
    rw [selection, viewer_perform_of_no_cause view silent]
    rfl
  rw [← selected] at locationEq mutantEq
  exact ⟨announcements_perform_of_no_cause silent, locationEq, mutantEq⟩

section

variable (unlinked : view.link = none)

include unlinked

theorem announces_perform {move : Move} {cause : Cause} (spoken : move.cause = some cause) :
    view.Announces (view.perform move) := by
  have carried : (view.carryOut move).announcements = view.announcements := by
    rw [carryOut, announcements_paint, announcements_note]
    rfl
  have selected : (view.perform move).selection = move.selection := by
    rw [selection, viewer_perform_of_no_link unlinked]
    rfl
  have led : (view.carryOut move).lead cause = view.carryOut move :=
    lead_of_no_link ((view.link_carryOut move).trans unlinked) cause
  have announced : ((view.carryOut move).announce ⟨cause, move.selection⟩).announcements =
      view.announcements ++ [⟨cause, move.selection⟩] := by
    rw [← carried]
    simp [announcements, announce, Effect.announcement?]
  refine ⟨cause, ?_⟩
  rw [selected]
  have centered (told : SourceView) (before : Option Location)
      (same : told.announcements = view.announcements ++ [⟨cause, move.selection⟩]) :
      (told.centerFrom before).announcements = view.announcements ++ [⟨cause, move.selection⟩] :=
    (told.announcements_centerFrom before).trans same
  refine view.perform_of_told centered (fun silent => ?_) fun other same => ?_
  · rw [silent] at spoken
    cases spoken
  · cases spoken.symm.trans same
    rw [led, announced]

/-- Every step that asks for a selection makes one announcement, or has nothing to announce. -/
theorem Acts.announces_or_silent {next : SourceView} (acts : view.Acts next) :
    view.Announces next ∨ view.Silent next := by
  cases acts with
  | idle => exact .inr (silent_refl view)
  | performed move elementary =>
      have allowed : view.viewer.Reaches move.selection move.cause := elementary.allows
      cases spoken : move.cause with
      | none =>
          rw [spoken] at allowed
          exact .inr (silent_perform spoken allowed.same_of_no_cause.1 allowed.same_of_no_cause.2)
      | some cause => exact .inl (announces_perform unlinked spoken)
  | switched switch =>
      let switched : SourceView := { view with viewer := view.viewer.switched switch }
      have detached : switched.link = none := unlinked
      rcases switched.viewer.afterSwitch_cause switch with ⟨silent, same⟩ | spoken
      · have kept : switched.Silent (view.switch switch).1 :=
          silent_perform silent (congrArg Selection.location same) (congrArg Selection.mutant same)
        exact .inr ⟨kept.announcements_eq, kept.location_eq, kept.mutant_eq⟩
      · exact .inl (announces_perform detached spoken)

theorem announces_or_refused {move : Move} (decided : view.viewer.Decided move) :
    (view.answerMove move).answer = some true ∧ view.Announces (view.answerMove move).view ∨
      (view.answerMove move).answer = some false ∧
        ∃ note, (view.answerMove move).view = view.note note := by
  cases decided with
  | told _ cause answered spoken =>
      exact .inl ⟨congrArg some answered, announces_perform unlinked spoken⟩
  | refused note => exact .inr ⟨rfl, note, view.perform_stay_note false note⟩

/-- A choice is announced just if there is a location to choose in. -/
theorem announces_choose (entry : Option String) :
    (view.selection.location.isSome -> view.Announces (view.perform (view.viewer.choose entry))) ∧
      (view.selection.location = none -> view.perform (view.viewer.choose entry) = view) := by
  constructor
  · intro active
    rcases Option.isSome_iff_exists.mp active with ⟨location, located⟩
    exact announces_perform unlinked (Viewer.cause_choose located entry)
  · intro unlocated
    have located : view.viewer.selection.location = none := unlocated
    have refused : view.viewer.choose entry = view.viewer.stay false none := by
      simp [Viewer.choose, located]
    rw [refused, perform_stay]

/-- A switch is announced just if it clears the active mutant. -/
theorem announces_switch (consistent : view.viewer.Consistent) (switch : Filters.Switch) :
    if view.selection.mutant.isSome ∧ (view.switch switch).1.selection.mutant = none
    then view.Announces (view.switch switch).1 else view.Silent (view.switch switch).1 := by
  let switched : SourceView := { view with viewer := view.viewer.switched switch }
  let move := switched.viewer.afterSwitch switch
  have detached : switched.link = none := unlinked
  have selected : (view.switch switch).1.selection = move.selection := by
    change (switched.perform move).selection = _
    rw [selection, viewer_perform_of_no_link detached]
    rfl
  have cleared := consistent.loses_iff_cleared switch
  have spoken := consistent.cause_afterSwitch switch
  rw [selected]
  split
  · next lost =>
      rw [cleared.mpr lost] at spoken
      exact announces_perform detached spoken
  · next kept =>
      have kept : view.viewer.loses [switch] = false :=
        Bool.eq_false_iff.mpr fun lost => kept (cleared.mp lost)
      rw [kept] at spoken
      rcases Acts.announces_or_silent unlinked (.switched switch) with ⟨cause, announced⟩ | silent
      · have quiet : (view.switch switch).1.announcements = view.announcements :=
          switched.announcements_perform_of_no_cause spoken
        rw [quiet] at announced
        simp at announced
      · exact silent

end

/-- Over a report from a dataset, wherever a run of a view without a bar leads, each step that
moves makes one announcement if it is answered with yes, and leaves nothing but a note in the log
otherwise.  A choice makes one just if a location is active, a switch of the filters just if
it clears the active mutant, and showing or hiding the replacement makes none.  Every announcement
is of the selection as it is after the step, and no step at all makes more than one, or none when
it changes the location or the mutant. -/
theorem changes_announced_once {data : Json} {report : Report} {notes : List Note}
    (accepted : Report.ofJson data = .ok (report, notes)) (settings : SourceSettings) (keys : Keys)
    (steps : List Step) :
    ∃ view, (ofReport report settings keys none).run steps = .ok view ∧
      (forall step, step.moves = true -> ∃ outcome, view.step step = .ok outcome ∧
        (outcome.answer = some true ∧ view.Announces outcome.view ∨
          outcome.answer = some false ∧ ∃ note, outcome.view = view.note note)) ∧
      (forall entry, ∃ outcome, view.step (.choose entry) = .ok outcome ∧
        (view.selection.location.isSome -> view.Announces outcome.view) ∧
        (view.selection.location = none -> outcome.view = view)) ∧
      (forall switch, ∃ outcome, view.step (.switch switch) = .ok outcome ∧
        if view.selection.mutant.isSome ∧ outcome.view.selection.mutant = none
        then view.Announces outcome.view else view.Silent outcome.view) ∧
      (∃ outcome, view.step .flip = .ok outcome ∧ view.Silent outcome.view) ∧
      forall step, ∃ outcome, view.step step = .ok outcome ∧
        (view.Announces outcome.view ∨ view.Silent outcome.view) := by
  have coherent := Report.coherent_of_ofJson accepted
  rcases exists_run_detached coherent settings keys steps with ⟨view, ran, detached⟩
  have reportEq := detached.report_eq
  subst reportEq
  have unlinked := detached.unlinked
  have flipped : view.Silent (view.perform view.viewer.flip) := silent_perform rfl rfl rfl
  refine ⟨view, ran, fun step moves => ?_, fun entry => ⟨_, rfl, announces_choose unlinked entry⟩,
    fun switch => ⟨_, rfl, announces_switch unlinked detached.consistent switch⟩,
    ⟨_, rfl, flipped⟩, fun step => ?_⟩
  · cases step with
    | start => exact ⟨_, rfl, announces_or_refused unlinked Viewer.decided_start⟩
    | goTo id preserve =>
        exact ⟨_, rfl, announces_or_refused unlinked (Viewer.decided_goTo id preserve)⟩
    | jumpTo id => exact ⟨_, rfl, announces_or_refused unlinked (Viewer.decided_jumpTo id)⟩
    | walkLocations amount =>
        exact ⟨_, rfl, announces_or_refused unlinked (Viewer.decided_walkLocations coherent amount)⟩
    | walkMutants amount center =>
        rcases detached.consistent.exists_walkMutants coherent amount center with ⟨move, walked⟩
        refine ⟨view.answerMove move, ?_, announces_or_refused unlinked
          (Viewer.decided_of_walkMutants coherent detached.consistent walked)⟩
        change (view.viewer.walkMutants amount center).map view.answerMove = _
        rw [walked]
        rfl
    | _ => cases moves
  · rcases exists_step coherent detached.consistent step with ⟨outcome, taken⟩
    exact ⟨outcome, taken, (acts_of_step_of_no_link unlinked taken).announces_or_silent unlinked⟩

/-- On the small report: a traversal that goes on elsewhere is announced once, and going to a
location that there is not leaves a note. -/
theorem changes_announced_once_on_sample :
    Report.ofJson Report.sampleData = .ok (Report.sample, []) ∧
      ∃ view went stayed, (ofReport Report.sample .standard .standard none).run
          [.goTo "L1" false, .jumpTo "M2"] = .ok view ∧
        view.step (.walkMutants (some .forward) true) = .ok went ∧ view.Announces went.view ∧
        view.step (.goTo "L4" true) = .ok stayed ∧ ∃ note, stayed.view = view.note note := by
  refine ⟨Report.sample_accepted, ?_⟩
  rcases changes_announced_once Report.sample_accepted .standard .standard
    [.goTo "L1" false, .jumpTo "M2"] with ⟨view, ran, moves, -⟩
  rcases moves (.walkMutants (some .forward) true) rfl with ⟨went, taken, outcome⟩
  rcases moves (.goTo "L4" true) rfl with ⟨stayed, takenThen, outcomeThen⟩
  have answered : (view.step (.walkMutants (some .forward) true)).toOption.map Outcome.answer =
      some (some true) :=
    eq_of_run ran (fun view =>
      (view.step (.walkMutants (some .forward) true)).toOption.map Outcome.answer)
      (by decide +kernel)
  have refused : (view.step (.goTo "L4" true)).toOption.map Outcome.answer = some (some false) :=
    eq_of_run ran (fun view => (view.step (.goTo "L4" true)).toOption.map Outcome.answer)
      (by decide +kernel)
  rw [taken] at answered
  rw [takenThen] at refused
  rw [Option.some.inj answered] at outcome
  rw [Option.some.inj refused] at outcomeThen
  simp only [Option.some.injEq, true_and, Bool.true_eq_false, Bool.false_eq_true, false_and,
    or_false, false_or] at outcome outcomeThen
  exact ⟨view, went, stayed, ran, taken, outcome, takenThen, outcomeThen⟩

end SourceView
end MutationViewer
