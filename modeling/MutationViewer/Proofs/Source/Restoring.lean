import MutationViewer.Proofs.Report.Records
import MutationViewer.Proofs.Source.Browsing
import MutationViewer.Proofs.Source.Delivery

/-!
# What is obeyed after restoring

Restoring selects the first location before it looks at the bar, and only if the bar asks for
something that can be had does the link remember another fragment than before.  Otherwise the
first location is all that is selected, and what the link remembers need not stand for it: it
may be the id of the mutant that was active before.  That fragment is then taken for one that
has been followed, and ignored when it is delivered next.

Here it is shown that nothing else can go wrong.  Nothing is asked of the ids for this, and
earlier restorations are among the steps that may have been taken.
-/

namespace MutationViewer

namespace SourceView

variable {view : SourceView}

/-- Restoring would lead to the first location, because nothing that the bar shows can be had,
and the link would go on remembering the fragment. -/
def RestoreOutdates (view : SourceView) (fragment : String) : Prop :=
  ∃ link, view.link = some link ∧ link.followed = fragment ∧
    view.viewer.started.restored? (Fragment.normalize link.history.fragment) = none

/-- A delivered fragment is ignored if the link remembers it, and leads to what it asks for
otherwise. -/
theorem Delivers.exists_selected {step : Step} {raw : Option String}
    (delivers : view.Delivers step raw) {link : Link} (linked : view.link = some link) :
    ∃ outcome, view.step step = .ok outcome ∧ outcome.view.selection =
      if Fragment.ofOption raw = link.followed then view.selection
      else (view.viewer.named? (Fragment.ofOption raw)).getD view.selection := by
  rcases delivers.exists_follow with ⟨outcome, heard, taken, reached, same⟩
  have viewerEq : heard.viewer = view.viewer := by
    rcases same with rfl | ⟨history, rfl⟩ <;> rfl
  have linkEq : ∃ history, heard.link = some ⟨history, link.followed⟩ := by
    rcases same with rfl | ⟨history, rfl⟩
    · exact ⟨link.history, linked⟩
    · exact ⟨history, by simp [withHistory, linked]⟩
  rcases linkEq with ⟨history, heardLink⟩
  refine ⟨outcome, taken, ?_⟩
  rw [selection, reached, selection, ← viewerEq]
  split
  · next followed => rw [follow_of_followed heardLink followed]
  · next other =>
      rw [follow_of_ne_followed heardLink other, (heard.followFragment_spec _).1]
      rfl

section

variable (coherent : view.viewer.report.Coherent) (consistent : view.viewer.Consistent)
  {link : Link} (linked : view.link = some link) {step : Step} {raw : Option String}
  (delivers : view.restore.Delivers step raw) {fragment : String}
  (looked : Fragment.ofOption raw = fragment) (nonempty : fragment ≠ "") {mutant : Mutant}
  (known : view.viewer.report.mutant? fragment = some mutant)
  (passes : view.viewer.filters.passes mutant = true)
  (listed : view.viewer.report.Lists fragment)

include nonempty known passes listed

/-- What the id of a mutant asks for does not depend on what restoring has selected. -/
theorem named?_started {chosen : Selection} (shows : chosen.shows = view.selection.shows) :
    (view.viewer.started.withSelection chosen).named? fragment =
      some ⟨view.viewer.report.owner? fragment, some mutant, view.selection.shows⟩ := by
  have named : (view.viewer.started.withSelection chosen).named? fragment = _ :=
    Viewer.named?_of_passes nonempty known passes listed
  rwa [Viewer.selection_withSelection, shows] at named

include coherent consistent linked delivers looked

/-- After restoring in vain, the mutant is selected if it is not the remembered one. -/
theorem exists_selected_of_refused (refused : view.viewer.started.restored?
      (Fragment.normalize link.history.fragment) = none) :
    ∃ outcome, view.restore.step step = .ok outcome ∧ outcome.view.selection =
      if fragment = link.followed then
        ⟨view.viewer.report.locations.head?, none, view.selection.shows⟩
      else ⟨view.viewer.report.owner? fragment, some mutant, view.selection.shows⟩ := by
  have start := consistent.started_selection coherent
  have shows : view.viewer.started.selection.shows = view.selection.shows := by
    rw [start]
    rfl
  rcases restore_spec linked rfl with ⟨viewerEq, linkEq⟩
  rw [refused, Option.getD_none] at viewerEq
  rw [refused, Option.isSome_none, if_neg Bool.false_ne_true] at linkEq
  rcases delivers.exists_selected linkEq with ⟨outcome, taken, selected⟩
  refine ⟨outcome, taken, ?_⟩
  rw [selected, looked, viewerEq, named?_started nonempty known passes listed shows,
    selection, viewerEq, Viewer.selection_withSelection, start]
  rfl

/-- After restoring something, the mutant is selected, or it has been already. -/
theorem exists_selected_of_restored {chosen : Selection} (restored : view.viewer.started.restored?
      (Fragment.normalize link.history.fragment) = some chosen) :
    ∃ outcome, view.restore.step step = .ok outcome ∧ outcome.view.selection =
      ⟨view.viewer.report.owner? fragment, some mutant, view.selection.shows⟩ := by
  have named := Viewer.named?_of_restored? restored
  have startShows : view.viewer.started.selection.shows = view.selection.shows := by
    rw [consistent.started_selection coherent]
    rfl
  have shows := (Viewer.shows_of_named? named).trans startShows
  rcases restore_spec linked rfl with ⟨viewerEq, linkEq⟩
  rw [restored, Option.getD_some] at viewerEq
  rw [restored, Option.isSome_some, if_pos rfl] at linkEq
  rcases delivers.exists_selected linkEq with ⟨outcome, taken, selected⟩
  refine ⟨outcome, taken, ?_⟩
  rw [selected, looked, viewerEq, named?_started nonempty known passes listed shows,
    selection, viewerEq, Viewer.selection_withSelection]
  split
  · next followed =>
      have asked := named?_started nonempty known passes listed startShows
      rw [followed] at asked ⊢
      exact Option.some.inj (named.symm.trans asked)
  · rfl

end

/-- Over a report from a dataset, take a page in any state that a run from loading leads to, let
it restore, and then deliver the id of a mutant that some location lists and that passes the
filters.  The mutant is active afterwards, in the first location that lists it, just if
restoring does not outdate that fragment; and if it does, the first location stays active
without a mutant. -/
theorem delivered_after_restoring_iff {data : Json} {report : Report} {notes : List Note}
    (accepted : Report.ofJson data = .ok (report, notes)) (settings : SourceSettings)
    (bar : Option History) (steps : List Step) :
    ∃ view restored, (load report settings bar).run steps = .ok view ∧
      view.step .restore = .ok ⟨restored, none⟩ ∧
      forall step raw fragment, restored.Delivers step raw ->
        Fragment.ofOption raw = fragment -> fragment ≠ "" ->
        forall mutant, report.mutant? fragment = some mutant -> report.Lists fragment ->
          view.viewer.filters.passes mutant = true ->
          ∃ outcome, restored.step step = .ok outcome ∧
            (outcome.view.selection.mutant = some mutant ↔ ¬ view.RestoreOutdates fragment) ∧
            (¬ view.RestoreOutdates fragment ->
              outcome.view.selection.location =
                report.locations.find? fun location => location.mutantIds.contains fragment) ∧
            (view.RestoreOutdates fragment ->
              outcome.view.selection =
                ⟨report.locations.head?, none, view.selection.shows⟩) := by
  have coherent := Report.coherent_of_ofJson accepted
  rcases exists_run_history coherent settings bar steps
    with ⟨view, history, ran, reportEq, consistent, shown⟩
  rcases Option.map_eq_some_iff.mp shown with ⟨link, linked, -⟩
  subst reportEq
  refine ⟨view, view.restore, ran, rfl, ?_⟩
  intro step raw fragment delivers looked nonempty mutant known listed passes
  rw [← coherent.lookupsAgree.owner fragment]
  cases restored : view.viewer.started.restored? (Fragment.normalize link.history.fragment) with
  | none =>
      have outdates : view.RestoreOutdates fragment ↔ fragment = link.followed := by
        constructor
        · rintro ⟨same, sameLink, followed, -⟩
          cases linked.symm.trans sameLink
          exact followed.symm
        · intro followed
          exact ⟨link, linked, followed.symm, restored⟩
      rcases exists_selected_of_refused coherent consistent linked delivers looked nonempty known
        passes listed restored with ⟨outcome, taken, selected⟩
      refine ⟨outcome, taken, ?_⟩
      rw [selected, outdates]
      split <;> simp [*]
  | some chosen =>
      have current : ¬ view.RestoreOutdates fragment := by
        rintro ⟨same, sameLink, -, refused⟩
        cases linked.symm.trans sameLink
        cases restored.symm.trans refused
      rcases exists_selected_of_restored coherent consistent linked delivers looked nonempty known
        passes listed restored with ⟨outcome, taken, selected⟩
      refine ⟨outcome, taken, ?_⟩
      rw [selected]
      simp [current]

/-- On the small report: after restoring in vain, another mutant than the remembered one is
obeyed. -/
theorem delivered_after_restoring_on_sample :
    Report.ofJson Report.sampleData = .ok (Report.sample, []) ∧
      ∃ view restored outcome,
        (load Report.sample .standard (some (.ofFragment "M1"))).run
          [.bar (.write (some "nowhere"))] = .ok view ∧
        view.step .restore = .ok ⟨restored, none⟩ ∧
        restored.step (.bar (.write (some "M3"))) = .ok outcome ∧
        outcome.view.selection.mutant = some (Report.sampleMutant "M3" "alive" "aor") := by
  refine ⟨Report.sample_accepted, ?_⟩
  rcases delivered_after_restoring_iff Report.sample_accepted .standard (some (.ofFragment "M1"))
    [.bar (.write (some "nowhere"))] with ⟨view, restored, ran, restores, obeyed⟩
  have remembered : view.link.map Link.followed = some "M1" :=
    eq_of_run ran (fun view => view.link.map Link.followed) (by decide +kernel)
  have passes : view.viewer.filters.passes (Report.sampleMutant "M3" "alive" "aor") = true :=
    eq_of_run ran (fun view => view.viewer.filters.passes _) (by decide +kernel)
  have used : (view.restore.link.map fun link => ((link.history.step (.write (some "M3"))).changed,
      (link.history.step (.write (some "M3"))).history.fragment)) = some (true, "M3") :=
    eq_of_run ran (fun view => view.restore.link.map fun link =>
      ((link.history.step (.write (some "M3"))).changed,
        (link.history.step (.write (some "M3"))).history.fragment)) (by decide +kernel)
  cases restores
  rcases Option.map_eq_some_iff.mp used with ⟨link, linked, shown⟩
  rcases Prod.mk.inj shown with ⟨changed, fragment⟩
  have current : ¬ view.RestoreOutdates "M3" := by
    rintro ⟨before, linkedBefore, followed, -⟩
    rw [linkedBefore, Option.map_some, followed] at remembered
    exact absurd remembered (by decide)
  rcases obeyed _ _ "M3" (.heard (.write (some "M3")) link linked changed)
    (by rw [fragment]; decide +kernel) (by decide) (Report.sampleMutant "M3" "alive" "aor")
    (by decide +kernel) ⟨⟨"L3", ["M3"]⟩, by decide +kernel, by decide⟩ passes
    with ⟨outcome, taken, active, -, -⟩
  exact ⟨view, _, outcome, ran, rfl, taken, active.mpr current⟩

/-- The mutant that a page has been opened with is forgotten by restoring while the bar shows
nothing that can be had; going back to its id does not bring it back, though the ids are fit
for the bar and nothing is filtered out. -/
theorem remembered_mutant_not_obeyed :
    Report.ofJson Report.sampleData = .ok (Report.sample, []) ∧ Report.sample.Addressable ∧
      ∃ view restored outcome,
        (load Report.sample .standard (some (.ofFragment "M1"))).run
          [.bar (.write (some "nowhere"))] = .ok view ∧
        view.step .restore = .ok ⟨restored, none⟩ ∧ restored.Delivers (.bar .back) (some "M1") ∧
        Report.sample.mutant? "M1" = some (Report.sampleMutant "M1" "alive" "ror") ∧
        Report.sample.Lists "M1" ∧
        view.viewer.filters.passes (Report.sampleMutant "M1" "alive" "ror") = true ∧
        restored.step (.bar .back) = .ok outcome ∧ outcome.view.selection.mutant = none := by
  refine ⟨Report.sample_accepted, Report.sample_addressable, ?_⟩
  rcases exists_run_history (Report.coherent_of_ofJson Report.sample_accepted) .standard
    (some (.ofFragment "M1")) [.bar (.write (some "nowhere"))] with ⟨view, -, ran, -⟩
  have passes : view.viewer.filters.passes (Report.sampleMutant "M1" "alive" "ror") = true :=
    eq_of_run ran (fun view => view.viewer.filters.passes _) (by decide +kernel)
  have cleared : (view.restore.useBar .back).1.selection.mutant = none :=
    eq_of_run ran (fun view => (view.restore.useBar .back).1.selection.mutant) (by decide +kernel)
  have used : (view.restore.link.map fun link => ((link.history.step .back).changed,
      (link.history.step .back).history.fragment)) = some (true, "M1") :=
    eq_of_run ran (fun view => view.restore.link.map fun link =>
      ((link.history.step .back).changed, (link.history.step .back).history.fragment))
      (by decide +kernel)
  rcases Option.map_eq_some_iff.mp used with ⟨link, linked, shown⟩
  rcases Prod.mk.inj shown with ⟨changed, fragment⟩
  exact ⟨view, _, _, ran, rfl, fragment ▸ .heard .back link linked changed, by decide +kernel,
    ⟨⟨"L1", ["M1", "M2"]⟩, by decide +kernel, by decide⟩, passes, rfl, cleared⟩

end SourceView
end MutationViewer
