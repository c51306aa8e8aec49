import MutationViewer.Proofs.Source.Echo
import MutationViewer.Proofs.Source.Picker

/-!
# Past an end of the picker

A traversal that goes on elsewhere looks for the nearest location with a candidate, and then
jumps to the mutant that it met there.  The jump goes by the id of the mutant, and ends in the
first location of the document that lists the id.  So where a mutant is listed twice, the
location that was found need not be the one that becomes active.
-/

namespace MutationViewer
namespace Viewer

variable {viewer : Viewer}

/-- The number of the last entry that a direction meets in the picker. -/
def lastEntry (viewer : Viewer) : Direction -> Nat
  | .forward => viewer.candidates.length
  | .backward => 0

/-- A step in the direction leads past an end of the picker. -/
def Overruns (viewer : Viewer) (direction : Direction) : Prop :=
  viewer.activeEntry = .ok (viewer.lastEntry direction)

/-- Such a step goes on elsewhere, if the settings say so. -/
theorem Overruns.walkMutants_eq {direction : Direction} (overruns : viewer.Overruns direction)
    (goesOn : viewer.settings.overrun = .goOn) {location : Location}
    (located : viewer.selection.location = some location) (center : Bool) :
    viewer.walkMutants (some direction) center = .ok (viewer.goOn direction center) := by
  have outside : ¬ (0 ≤ (viewer.lastEntry direction : Int) + direction.step ∧
      (viewer.lastEntry direction : Int) + direction.step ≤ viewer.candidates.length) := by
    cases direction <;> simp only [lastEntry, Direction.step] <;> omega
  have past : viewer.stepEntry direction center (viewer.lastEntry direction) =
      viewer.goOn direction center := by
    simp only [stepEntry, if_neg outside, pastEnd, goesOn]
  simp only [walkMutants, located]
  rw [show viewer.activeEntry = _ from overruns, ← past]
  rfl

end Viewer

namespace SourceView

variable {view : SourceView} {mutant : Mutant} {move : Move}

/-- The link does not select anything else when the mutant has become active: there is no
link, or the bar shows the id already, or what comes back of the id is not answered. -/
def LetsBe (view : SourceView) (mutant : Mutant) : Prop :=
  forall link, view.link = some link ->
    Fragment.normalize mutant.id = link.history.fragment ∨
      (view.viewer.withSelection (view.viewer.atMutant mutant)).Unanswered mutant.id

/-- A mutant that the link lets be stays active, in its own location. -/
theorem viewer_perform_of_letsBe (spoken : move.cause = some .mutant)
    (selected : move.selection = view.viewer.atMutant mutant) (letsBe : view.LetsBe mutant) :
    (view.perform move).viewer = view.viewer.withSelection (view.viewer.atMutant mutant) := by
  rw [← selected]
  refine viewer_perform_of_letsStand spoken fun shown there => ?_
  rcases Option.map_eq_some_iff.mp there with ⟨link, linked, rfl⟩
  rw [selected]
  exact letsBe link linked

/-- If the link answers, what it selects is not the mutant. -/
theorem letsBe_of_perform (spoken : move.cause = some .mutant)
    (selected : move.selection = view.viewer.atMutant mutant)
    (coherent : view.viewer.report.Coherent)
    (active : (view.perform move).selection.mutant = some mutant) : view.LetsBe mutant := by
  rcases letsStand_or_shorter spoken coherent with letsStand | ⟨other, chosen, shorter⟩
  · intro link linked
    have letsMove := letsStand link.history.fragment (by simp [shown, linked])
    rwa [selected] at letsMove
  · rw [selected] at chosen
    cases chosen
    exact absurd (shorter mutant active) (Nat.lt_irrefl _)

/-! ## Going on elsewhere -/

/-- What a step past an end of the picker comes to, given the locations ahead.  It is answered
with yes just if one of them has a candidate, and else nothing changes.  The candidate that is
met first in the nearest of these becomes active where it belongs, if the link lets it be; so
it is active in that very location just if it belongs there as well. -/
structure GoesOn (report : Report) (view : SourceView) (direction : Direction)
    (ahead : List Location) (outcome : Outcome) : Prop where
  answer_iff : outcome.answer = some true ↔
    ∃ other ∈ ahead, view.viewer.filters.candidatesAt report other ≠ []
  refused : outcome.answer ≠ some true -> outcome = ⟨view, some false⟩
  nearest : forall {passed rest : List Location} {nearest : Location} {mutant : Mutant},
    ahead = passed ++ nearest :: rest ->
    (∀ other ∈ passed, view.viewer.filters.candidatesAt report other = []) ->
    direction.firstMet (view.viewer.filters.candidatesAt report nearest) = some mutant ->
    (outcome.view.selection.location = some nearest ∧
        outcome.view.selection.mutant = some mutant ↔
      report.owner? mutant.id = some nearest ∧ view.LetsBe mutant) ∧
    (view.LetsBe mutant -> outcome.view.selection =
      ⟨report.owner? mutant.id, some mutant, view.selection.shows⟩)

section

variable {report : Report} {location : Location} {before after : List Location}
  {direction : Direction}

theorem step_of_overruns (goesOn : view.viewer.settings.overrun = .goOn)
    (located : view.selection.location = some location)
    (overruns : view.viewer.Overruns direction) (center : Bool) :
    view.step (.walkMutants (some direction) center) =
      .ok (view.answerMove (view.viewer.goOn direction center)) := by
  change (view.viewer.walkMutants (some direction) center).map view.answerMove = _
  rw [overruns.walkMutants_eq goesOn located center]
  rfl

theorem goesOn_of_none {ahead : List Location}
    (missed : (ahead.findSome? fun other =>
      direction.firstMet (view.viewer.filters.candidatesAt report other)) = none) :
    GoesOn report view direction ahead ⟨view, some false⟩ := by
  have empty : ∀ other ∈ ahead, view.viewer.filters.candidatesAt report other = [] :=
    fun other met => Direction.firstMet_eq_none_iff.mp (List.findSome?_eq_none_iff.mp missed _ met)
  refine ⟨⟨fun answered => (by cases answered), ?_⟩, fun _ => rfl, ?_⟩
  · rintro ⟨other, met, offered⟩
    exact absurd (empty other met) offered
  · intro passed rest nearest mutant aheadEq _ first
    rw [Direction.firstMet_eq_none_iff.mpr (empty nearest (by simp [aheadEq]))] at first
    cases first

theorem goesOn_of_some (coherent : view.viewer.report.Coherent) {ahead : List Location}
    {mutant : Mutant} {move : Move}
    (met : (ahead.findSome? fun other => direction.firstMet
      (view.viewer.filters.candidatesAt view.viewer.report other)) = some mutant)
    (selected : move.selection = view.viewer.atMutant mutant) (answered : move.answer = true)
    (spoken : move.cause = some .mutant) :
    GoesOn view.viewer.report view direction ahead (view.answerMove move) where
  answer_iff := by
    rcases List.exists_of_findSome?_eq_some met with ⟨other, member, first⟩
    refine ⟨fun _ => ⟨other, member, fun empty => ?_⟩, fun _ => congrArg some answered⟩
    rw [Direction.firstMet_eq_none_iff.mpr empty] at first
    cases first
  refused refusal := absurd (congrArg some answered) refusal
  nearest := by
    intro passed rest nearest other aheadEq empty first
    have passes : (passed.findSome? fun other => direction.firstMet
        (view.viewer.filters.candidatesAt view.viewer.report other)) = none :=
      List.findSome?_eq_none_iff.mpr fun other member =>
        Direction.firstMet_eq_none_iff.mpr (empty other member)
    rw [aheadEq, List.findSome?_append, passes, Option.none_or, List.findSome?_cons, first] at met
    cases met
    have settled : view.LetsBe mutant ->
        (view.answerMove move).view.selection = view.viewer.atMutant mutant := fun letsBe =>
      congrArg Viewer.selection (viewer_perform_of_letsBe spoken selected letsBe)
    refine ⟨⟨?_, ?_⟩, settled⟩
    · rintro ⟨located, active⟩
      have letsBe := letsBe_of_perform spoken selected coherent active
      rw [settled letsBe] at located
      exact ⟨located, letsBe⟩
    · rintro ⟨owned, letsBe⟩
      rw [settled letsBe]
      exact ⟨owned, rfl⟩

/-- A step past an end of the picker, where traversals go on elsewhere. -/
theorem exists_step_of_overruns (coherent : view.viewer.report.Coherent)
    (goesOn : view.viewer.settings.overrun = .goOn)
    (located : view.selection.location = some location)
    (split : view.viewer.report.locations = before ++ location :: after)
    (overruns : view.viewer.Overruns direction) (center : Bool) :
    ∃ outcome, view.step (.walkMutants (some direction) center) = .ok outcome ∧
      GoesOn view.viewer.report view direction
        (direction.ahead view.viewer.settings.ring before location after) outcome := by
  refine ⟨_, step_of_overruns goesOn located overruns center, ?_⟩
  have search := Viewer.nextCandidate?_eq coherent located split direction
  cases met : view.viewer.nextCandidate? direction with
  | none =>
      have stays : view.answerMove (view.viewer.goOn direction center) = ⟨view, some false⟩ := by
        rw [Viewer.goOn, met, answerMove, perform_stay]
        rfl
      rw [stays]
      exact goesOn_of_none (search.symm.trans met)
  | some mutant =>
      rcases Viewer.goOn_of_met coherent located split met center
        with ⟨selected, answered, spoken⟩
      exact goesOn_of_some coherent (search.symm.trans met) selected answered spoken

end

/-- Over a report from a dataset, wherever a run leads, a traversal past an end of the picker
finds the nearest location with a candidate, be there a link to a bar or not.  It makes that
location active only if no location before it in the document lists the same mutant. -/
theorem overrun_goes_on_along_runs {data : Json} {report : Report} {notes : List Note}
    (accepted : Report.ofJson data = .ok (report, notes)) {settings : SourceSettings}
    (goesOn : settings.overrun = .goOn) (keys : Keys) (bar : Option History) (steps : List Step)
    {view : SourceView} (ran : (ofReport report settings keys bar).run steps = .ok view)
    {location : Location} (located : view.selection.location = some location)
    {before after : List Location} (split : report.locations = before ++ location :: after)
    {direction : Direction} (overruns : view.viewer.Overruns direction) (center : Bool) :
    ∃ outcome, view.step (.walkMutants (some direction) center) = .ok outcome ∧
      GoesOn report view direction (direction.ahead settings.ring before location after)
        outcome := by
  have coherent := Report.coherent_of_ofJson accepted
  obtain ⟨later, ranLater, kept⟩ :=
    exists_run_keeps coherent (consistent_ofReport report settings keys bar) steps
  rw [ran, Except.ok.injEq] at ranLater
  subst ranLater
  have reportEq : view.viewer.report = report := kept.report_eq
  have settingsEq : view.viewer.settings = settings := kept.settings_eq
  subst reportEq
  subst settingsEq
  exact exists_step_of_overruns coherent goesOn located split overruns center

/-- On the small report the second location has no candidates, and is passed. -/
theorem overrun_goes_on_on_sample :
    Report.ofJson Report.sampleData = .ok (Report.sample, []) ∧
      ∃ view outcome,
        (ofReport Report.sample .standard .standard (some (.ofFragment ""))).run
          [.jumpTo "M2"] = .ok view ∧
        view.viewer.Overruns .forward ∧
        view.step (.walkMutants (some .forward) true) = .ok outcome ∧
        outcome.answer = some true ∧
        outcome.view.selection.location = some ⟨"L3", ["M3"]⟩ ∧
        outcome.view.selection.mutant = some (Report.sampleMutant "M3" "alive" "aor") := by
  refine ⟨Report.sample_accepted, ?_⟩
  let opened := ofReport Report.sample .standard .standard (some (.ofFragment ""))
  let view := opened.perform (opened.viewer.jumpTo "M2")
  have ran : opened.run [.jumpTo "M2"] = .ok view := rfl
  have located : view.selection.location = some ⟨"L1", ["M1", "M2"]⟩ := by decide +kernel
  have overruns : view.viewer.Overruns .forward := by
    change view.viewer.activeEntry = .ok (view.viewer.lastEntry .forward)
    decide +kernel
  have split : Report.sample.locations =
      [] ++ ⟨"L1", ["M1", "M2"]⟩ :: [⟨"L2", []⟩, ⟨"L3", ["M3"]⟩] := rfl
  rcases overrun_goes_on_along_runs Report.sample_accepted rfl .standard (some (.ofFragment ""))
    [.jumpTo "M2"] ran located split overruns true with ⟨outcome, taken, goesOn⟩
  have ahead : Direction.forward.ahead SourceSettings.standard.ring []
      (⟨"L1", ["M1", "M2"]⟩ : Location) [⟨"L2", []⟩, ⟨"L3", ["M3"]⟩] =
      [⟨"L2", []⟩] ++ ⟨"L3", ["M3"]⟩ :: [⟨"L1", ["M1", "M2"]⟩] := rfl
  have letsBe : view.LetsBe (Report.sampleMutant "M3" "alive" "aor") :=
    fun _ _ => .inr (.inl (by decide +kernel))
  have first : Direction.forward.firstMet
      (view.viewer.filters.candidatesAt Report.sample ⟨"L3", ["M3"]⟩) =
      some (Report.sampleMutant "M3" "alive" "aor") := by
    decide +kernel
  have reached := (goesOn.nearest ahead (by decide +kernel) first).1.mpr
    ⟨by decide +kernel, letsBe⟩
  have answered := goesOn.answer_iff.mpr ⟨⟨"L3", ["M3"]⟩, by decide +kernel, by decide +kernel⟩
  exact ⟨view, outcome, ran, overruns, taken, answered, reached⟩

/-- Two locations that list the same mutant. -/
def sharedData : Json :=
  .object
    [("mutants", .list [.object [("id", .text "M1")]]),
     ("locations", .list
        [.object [("id", .text "L1"), ("mutants", .list [.text "M1"])],
         .object [("id", .text "L2"), ("mutants", .list [.text "M1"])]])]

def shared : Report where
  locations := [⟨"L1", ["M1"]⟩, ⟨"L2", ["M1"]⟩]
  mutants := .ofList [("M1", Report.sampleMutant "M1" "unknown" "")]
  statusLabels := []
  kindLabels := []
  kills := .empty

/-- From the mutant in the first of two locations that list it, a traversal finds it in the
second and leads back to the first. -/
theorem shared_mutant_leads_back :
    Report.ofJson sharedData = .ok (shared, []) ∧
      ∃ view outcome,
        (ofReport shared .standard .standard none).run
          [.goTo "L1" false, .choose (some "M1")] = .ok view ∧
        view.selection.location = some ⟨"L1", ["M1"]⟩ ∧
        view.viewer.Overruns .forward ∧
        Direction.forward.ahead SourceSettings.standard.ring [] (⟨"L1", ["M1"]⟩ : Location)
          [⟨"L2", ["M1"]⟩] = [⟨"L2", ["M1"]⟩, ⟨"L1", ["M1"]⟩] ∧
        view.viewer.filters.candidatesAt shared ⟨"L2", ["M1"]⟩ ≠ [] ∧
        view.step (.walkMutants (some .forward) true) = .ok outcome ∧
        outcome.answer = some true ∧
        outcome.view.selection.location = some ⟨"L1", ["M1"]⟩ := by
  refine ⟨rfl, ?_⟩
  let opened := ofReport shared .standard .standard none
  let entered := opened.perform (opened.viewer.goTo "L1" false)
  let view := entered.perform (entered.viewer.choose (some "M1"))
  have located : view.selection.location = some ⟨"L1", ["M1"]⟩ := by decide +kernel
  have overruns : view.viewer.Overruns .forward := by
    change view.viewer.activeEntry = .ok (view.viewer.lastEntry .forward)
    decide +kernel
  have goesOn : view.viewer.settings.overrun = .goOn := by decide +kernel
  exact ⟨view, _, rfl, located, overruns, rfl, by decide +kernel,
    step_of_overruns goesOn located overruns true, by decide +kernel, by decide +kernel⟩

end SourceView
end MutationViewer
