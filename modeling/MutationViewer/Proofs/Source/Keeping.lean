import MutationViewer.Proofs.Source.Echo

/-!
# Keeping the mutant when a location is made active

Making a location active clears the mutant, unless it is to be preserved and the location lists
it.  Several locations may list one mutant, and it is kept in each of them.  The filters are asked
again, but an active mutant always passes; so the active location can be made active any number of
times, preserving its mutant, and nothing comes of it.

This is what a view without a bar does.  With a bar, what is written of the selection may come
back as another text, be followed and select something else.
-/

namespace MutationViewer

namespace Viewer

variable {viewer : Viewer} {location : Location}

/-- The location, with the active mutant if it is to be preserved and the location lists it. -/
def arrival (viewer : Viewer) (location : Location) (preserve : Bool) : Selection where
  location := some location
  mutant := viewer.selection.mutant.filter fun mutant =>
    preserve && location.mutantIds.contains mutant.id
  shows := viewer.selection.shows

/-- Making a location active comes to just that, as the active mutant passes the filters. -/
theorem Consistent.goTo_selection (consistent : viewer.Consistent)
    (found : viewer.report.location? location.id = some location) (preserve : Bool) :
    (viewer.goTo location.id preserve).selection = viewer.arrival location preserve := by
  have kept : (viewer.selection.mutant.filter fun mutant =>
        preserve && viewer.fits location mutant) =
      viewer.selection.mutant.filter fun mutant =>
        preserve && location.mutantIds.contains mutant.id := by
    cases active : viewer.selection.mutant with
    | none => rfl
    | some mutant => simp [Option.filter, fits, consistent.mutant_passes active]
  rw [goTo_of_known found, kept]
  rfl

/-- The active location lists the active mutant, so nothing is lost by making it active again. -/
theorem Consistent.arrival_self (consistent : viewer.Consistent)
    (located : viewer.selection.location = some location) :
    viewer.arrival location true = viewer.selection := by
  have kept : (viewer.selection.mutant.filter fun mutant =>
      true && location.mutantIds.contains mutant.id) = viewer.selection.mutant := by
    cases active : viewer.selection.mutant with
    | none => rfl
    | some mutant =>
        rcases consistent.mutant_listed active with ⟨place, active, listed⟩
        cases located.symm.trans active
        simp [Option.filter, listed]
  rw [arrival, kept, ← located]

/-- A location that is made active lists the mutant that is active there. -/
theorem Consistent.arrival (consistent : viewer.Consistent)
    (member : location ∈ viewer.report.locations) (preserve : Bool) :
    (viewer.withSelection (viewer.arrival location preserve)).Consistent := by
  cases kept : viewer.selection.mutant.filter fun mutant =>
      preserve && location.mutantIds.contains mutant.id with
  | none =>
      rw [Viewer.arrival, kept]
      exact .without_mutant member
  | some mutant =>
      rw [Viewer.arrival, kept]
      rcases Option.filter_eq_some_iff.mp kept with ⟨active, lists⟩
      rw [Bool.and_eq_true, List.contains_iff_mem] at lists
      exact .with_mutant member lists.2 (consistent.mutant_known active)
        (consistent.mutant_passes active)

end Viewer

namespace SourceView

variable {view : SourceView} {location : Location} {preserve : Bool}

/-- The bar, if there is one, lets stand what making the location active comes to. -/
def LetsArrive (view : SourceView) (location : Location) (preserve : Bool) : Prop :=
  ∀ shown ∈ view.shown,
    view.viewer.LetsStandAs .location shown (view.viewer.arrival location preserve)

/-- It does so if no id that can be written comes back as a fragment that asks for something
else. -/
theorem letsArrive_of_echoFree (coherent : view.viewer.report.Coherent)
    (echoFree : view.viewer.report.EchoFree) (consistent : view.viewer.Consistent)
    (member : location ∈ view.viewer.report.locations) : view.LetsArrive location preserve := by
  intro shown _
  right
  exact (consistent.arrival member preserve).unanswered coherent echoFree fun _ => rfl

section

variable (coherent : view.viewer.report.Coherent) (consistent : view.viewer.Consistent)
  (member : location ∈ view.viewer.report.locations)

include coherent consistent member

/-- Making a location active changes neither the filters nor whether replacements are shown, and
ends where it should just if the bar lets that stand. -/
theorem exists_goTo (preserve : Bool) :
    ∃ outcome, view.step (.goTo location.id preserve) = .ok outcome ∧
      outcome.answer = some true ∧
      outcome.view.viewer = view.viewer.withSelection outcome.view.selection ∧
      outcome.view.selection.shows = view.selection.shows ∧
      (outcome.view.selection = view.viewer.arrival location preserve ↔
        view.LetsArrive location preserve) ∧
      outcome.view.shown = view.shown.map fun _ => Fragment.normalize
        (fragmentOf .location (view.viewer.arrival location preserve)) := by
  have found := coherent.location?_of_mem member
  rcases Viewer.goTo_told found preserve with ⟨spoken, answered⟩
  have selected := consistent.goTo_selection found preserve
  have stands : (view.perform (view.viewer.goTo location.id preserve)).selection = _ ↔ _ :=
    selection_perform_iff spoken
  have shows := view.shows_perform spoken
  have written := view.shown_perform spoken
  rw [selected] at stands shows written
  exact ⟨_, rfl, congrArg some answered, view.viewer_perform_of_cause spoken, shows, stands, written⟩

/-- Making the active location active again, preserving its mutant, leaves the viewer as it is if
the bar lets it, and then the bar lets it again. -/
theorem exists_goTo_active (located : view.selection.location = some location)
    (letsArrive : view.LetsArrive location true) :
    ∃ outcome, view.step (.goTo location.id true) = .ok outcome ∧
      outcome.view.viewer = view.viewer ∧ outcome.view.LetsArrive location true := by
  rcases exists_goTo coherent consistent member true
    with ⟨outcome, taken, -, viewerEq, -, stands, written⟩
  have selected := stands.mpr letsArrive
  have same : outcome.view.viewer = view.viewer := by
    rw [viewerEq, selected, consistent.arrival_self located]
    rfl
  refine ⟨outcome, taken, same, fun shown there => .inl ?_⟩
  rw [written] at there
  rcases Option.map_eq_some_iff.mp there with ⟨before, -, rfl⟩
  rw [same]

/-- So it can be repeated any number of times. -/
theorem exists_run_goTo_active (located : view.selection.location = some location)
    (letsArrive : view.LetsArrive location true) (count : Nat) :
    ∃ last, view.run (List.replicate count (.goTo location.id true)) = .ok last ∧
      last.viewer = view.viewer := by
  induction count generalizing view with
  | zero => exact ⟨view, rfl, rfl⟩
  | succ count ih =>
      rcases exists_goTo_active coherent consistent member located letsArrive
        with ⟨outcome, taken, same, letsArriveThen⟩
      rcases ih (same.symm ▸ coherent) (same.symm ▸ consistent) (same.symm ▸ member)
        ((congrArg (fun viewer => viewer.selection.location) same).trans located) letsArriveThen
        with ⟨last, ran, kept⟩
      refine ⟨last, ?_, kept.trans same⟩
      rw [List.replicate_succ, run, taken]
      exact ran

/-- It can be repeated just if the bar lets the selection stand. -/
theorem run_goTo_active_iff (located : view.selection.location = some location) :
    (forall count, ∃ last, view.run (List.replicate count (.goTo location.id true)) = .ok last ∧
        last.viewer = view.viewer) ↔ view.LetsArrive location true := by
  constructor
  · intro repeated
    rcases exists_goTo coherent consistent member true with ⟨outcome, taken, -, -, -, stands, -⟩
    rcases repeated 1 with ⟨last, ran, same⟩
    rw [List.replicate_one, run, taken] at ran
    cases ran
    refine stands.mp ?_
    rw [consistent.arrival_self located]
    exact congrArg Viewer.selection same
  · exact exists_run_goTo_active coherent consistent member located

end

/-- Over a report from a dataset, take a view in any state that a run leads to, and make any
location of the document active.  This is answered with yes, and changes neither the filters nor
whether replacements are shown.  The location is active afterwards, and the mutant is kept if it
was to be preserved and the location lists it, and cleared otherwise, just if the bar lets that
stand; and just then the active location can be made active any number of times, preserving its
mutant, without a change.  There is nothing that the bar does not let stand if there is no bar, or
if no id comes back as a fragment that asks for something else. -/
theorem mutant_kept_by_location_iff {data : Json} {report : Report} {notes : List Note}
    (accepted : Report.ofJson data = .ok (report, notes)) (settings : SourceSettings) (keys : Keys)
    (bar : Option History) (steps : List Step) :
    ∃ view, (ofReport report settings keys bar).run steps = .ok view ∧
      ∀ location ∈ report.locations,
        (forall preserve, ∃ outcome, view.step (.goTo location.id preserve) = .ok outcome ∧
          outcome.answer = some true ∧ outcome.view.viewer.filters = view.viewer.filters ∧
          outcome.view.selection.shows = view.selection.shows ∧
          (outcome.view.selection = view.viewer.arrival location preserve ↔
            view.LetsArrive location preserve)) ∧
        (view.selection.location = some location ->
          ((forall count, ∃ last,
              view.run (List.replicate count (.goTo location.id true)) = .ok last ∧
              last.viewer = view.viewer) ↔ view.LetsArrive location true)) ∧
        (bar = none ∨ report.EchoFree -> forall preserve, view.LetsArrive location preserve) := by
  have coherent := Report.coherent_of_ofJson accepted
  rcases exists_run_keeps coherent (consistent_ofReport report settings keys bar) steps
    with ⟨view, ran, kept⟩
  have consistent := kept.consistent coherent (consistent_ofReport report settings keys bar)
  have reportEq : view.viewer.report = report := kept.report_eq
  have coherentThen : view.viewer.report.Coherent := reportEq.symm ▸ coherent
  refine ⟨view, ran, fun location member => ?_⟩
  rw [← reportEq] at member
  refine ⟨fun preserve => ?_, run_goTo_active_iff coherentThen consistent member, ?_⟩
  · rcases exists_goTo coherentThen consistent member preserve
      with ⟨outcome, taken, answered, viewerEq, shows, stands, -⟩
    have filtersEq : outcome.view.viewer.filters = view.viewer.filters := by
      rw [viewerEq]
      rfl
    exact ⟨outcome, taken, answered, filtersEq, shows, stands⟩
  · rintro (rfl | echoFree) preserve
    · rcases exists_run_detached coherent settings keys steps with ⟨alone, ranAlone, detached⟩
      cases ran.symm.trans ranAlone
      intro shown there
      rw [SourceView.shown, detached.unlinked] at there
      cases there
    · exact letsArrive_of_echoFree coherentThen (reportEq.symm ▸ echoFree) consistent member

/-- On the small report, with a bar: the active location keeps its mutant twice, and another
location does not. -/
theorem mutant_kept_by_location_on_sample :
    Report.ofJson Report.sampleData = .ok (Report.sample, []) ∧
      ∃ view last outcome,
        (ofReport Report.sample .standard .standard (some (.ofFragment ""))).run
          [.jumpTo "M2"] = .ok view ∧
        view.run [.goTo "L1" true, .goTo "L1" true] = .ok last ∧ last.viewer = view.viewer ∧
        view.selection.mutant = some (Report.sampleMutant "M2" "killed" "aor") ∧
        view.step (.goTo "L3" true) = .ok outcome ∧
        outcome.view.selection = ⟨some ⟨"L3", ["M3"]⟩, none, true⟩ := by
  have coherent := Report.coherent_of_ofJson Report.sample_accepted
  have echoFree := Report.sample_addressable.echoFree coherent
  refine ⟨Report.sample_accepted, ?_⟩
  rcases mutant_kept_by_location_iff Report.sample_accepted .standard .standard
    (some (.ofFragment "")) [.jumpTo "M2"] with ⟨view, ran, each⟩
  have selected : view.viewer.selection = ⟨some ⟨"L1", ["M1", "M2"]⟩,
      some (Report.sampleMutant "M2" "killed" "aor"), true⟩ :=
    eq_of_run ran SourceView.selection (by decide +kernel)
  rcases each ⟨"L1", ["M1", "M2"]⟩ (by simp [Report.sample]) with ⟨-, repeated, stays⟩
  rcases (repeated (congrArg Selection.location selected)).mpr (stays (.inr echoFree) true) 2
    with ⟨last, ranOn, same⟩
  rcases each ⟨"L3", ["M3"]⟩ (by simp [Report.sample]) with ⟨leaves, -, stands⟩
  rcases leaves true with ⟨outcome, taken, -, -, -, arrived⟩
  refine ⟨view, last, outcome, ran, ranOn, same, congrArg Selection.mutant selected, taken, ?_⟩
  rw [arrived.mpr (stands (.inr echoFree) true), Viewer.arrival, selected]
  decide +kernel

/-- One location, whose id is a mark before the id of its mutant. -/
def markedPlaceData : Json :=
  .object
    [("mutants", .list [.object [("id", .text "M1")]]),
     ("locations", .list [.object [("id", .text "#M1"), ("mutants", .list [.text "M1"])]])]

def markedPlace : Report where
  locations := [⟨"#M1", ["M1"]⟩]
  mutants := .ofList [("M1", Report.sampleMutant "M1" "unknown" "")]
  statusLabels := []
  kindLabels := []
  kills := .empty

/-- Making the location active without preserving anything selects the mutant, if there is a
bar. -/
theorem marked_place_selects_mutant :
    Report.ofJson markedPlaceData = .ok (markedPlace, []) ∧
      ⟨"#M1", ["M1"]⟩ ∈ markedPlace.locations ∧
      ∃ outcome, (ofReport markedPlace .standard .standard (some (.ofFragment ""))).step
          (.goTo "#M1" false) = .ok outcome ∧
        outcome.view.selection.mutant = some (Report.sampleMutant "M1" "unknown" "") :=
  ⟨rfl, List.mem_singleton.mpr rfl, _, rfl, by decide +kernel⟩

end SourceView
end MutationViewer
