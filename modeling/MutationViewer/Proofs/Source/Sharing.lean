import MutationViewer.Proofs.Source.Delivery

/-!
# Sharing a fragment

A reader who hands on the fragment on show expects it to lead to what is selected now.
A page that is opened with the fragment starts in the first location and selects there
what the fragment asks for, with nothing excluded yet.  If the fragment is the id of a
listed mutant or of a location, bar and selection in step are all that is needed.

The id of a mutant that no location lists is remembered too, when a page is opened with
it, but it asks for nothing.  Then the page has to be in its first location still, and
that takes an invariant of its own: nothing else that is remembered later on is a text
that names nothing.
-/

namespace MutationViewer
namespace Viewer

variable {viewer : Viewer} {fragment : String}

theorem Consistent.names_fragmentOf (consistent : viewer.Consistent)
    (coherent : viewer.report.Coherent) (addressable : viewer.report.Addressable) {cause : Cause}
    (located : cause = .location -> viewer.selection.location.isSome)
    (nonempty : SourceView.fragmentOf cause viewer.selection ≠ "") :
    viewer.report.Names (SourceView.fragmentOf cause viewer.selection) := by
  refine ⟨nonempty, ?_⟩
  unfold SourceView.fragmentOf at nonempty ⊢
  cases active : viewer.selection.mutant with
  | some mutant =>
      rcases consistent.mutant_listed active with ⟨location, place, listed⟩
      exact .inl ⟨location, consistent.location_mem place, listed⟩
  | none =>
      cases cause with
      | mutant =>
          rw [active] at nonempty
          exact absurd rfl nonempty
      | location =>
          rcases Option.isSome_iff_exists.mp (located rfl) with ⟨location, place⟩
          have member := consistent.location_mem place
          have unknown :=
            addressable.mutant?_of_location? coherent (coherent.location?_of_mem member)
          rw [place]
          exact .inr ⟨unknown, location, member, rfl⟩

theorem names_of_named? (coherent : viewer.report.Coherent) {asked : Selection}
    (named : viewer.named? fragment = some asked) (nonempty : fragment ≠ "") :
    viewer.report.Names fragment := by
  by_contra unnamed
  rw [named?_of_not_names coherent nonempty unnamed] at named
  cases named

end Viewer

namespace SourceView

/-- As long as the link remembers a text that names nothing, the view is in the first
location. -/
def Waits (report : Report) (view : SourceView) : Prop :=
  forall link, view.link = some link -> link.followed ≠ "" -> ¬ report.Names link.followed ->
    view.selection.location = report.locations.head?

variable {report : Report} {view next : SourceView}

theorem Waits.congr (waits : Waits report view) (locationEq : next.selection.location =
      view.selection.location)
    (linkEq : next.link.map Link.followed = view.link.map Link.followed) : Waits report next := by
  intro link linked nonempty unnamed
  rw [linked] at linkEq
  rcases Option.map_eq_some_iff.mp linkEq.symm with ⟨before, found, same⟩
  rw [locationEq]
  exact waits before found (same ▸ nonempty) (same ▸ unnamed)

theorem waits_of_names {link : Link} (linked : view.link = some link)
    (names : link.followed ≠ "" -> report.Names link.followed) : Waits report view := by
  intro other found nonempty unnamed
  rw [linked] at found
  cases found
  exact absurd (names nonempty) unnamed

/-- What is written names something, so a view that has moved on does not wait. -/
theorem Waits.of_acts (coherent : report.Coherent) (addressable : report.Addressable)
    (inStep : InStep report view) (waits : Waits report view) (acts : view.Acts next) :
    Waits report next := by
  rcases inStep with ⟨rfl, consistent, link, linked, -⟩
  have kept := acts.keeps
  rcases acts.leaves coherent addressable consistent (by rw [linked]; rfl)
    with ⟨-, linkEq, locationEq, -⟩ | ⟨cause, history, linkEq, -, located⟩
  · exact waits.congr locationEq (by rw [linkEq])
  · apply waits_of_names linkEq
    intro nonempty
    have names := (kept.consistent coherent consistent).names_fragmentOf
      (kept.report_eq.symm ▸ coherent) (kept.report_eq.symm ▸ addressable) located nonempty
    rwa [kept.report_eq] at names

theorem Waits.follow (coherent : report.Coherent) (inStep : InStep report view)
    (waits : Waits report view) (raw : Option String) : Waits report (view.follow raw) := by
  rcases inStep.matched with ⟨link, linked, -⟩
  by_cases same : Fragment.ofOption raw = link.followed
  · rw [follow_of_followed linked same]
    exact waits
  · have reportEq := inStep.report_eq
    subst reportEq
    rw [follow_of_ne_followed linked same]
    rcases view.followFragment_spec (Fragment.ofOption raw) with ⟨viewerEq, linkEq⟩
    cases named : view.viewer.named? (Fragment.ofOption raw) with
    | none =>
        rw [named] at viewerEq linkEq
        apply waits.congr _ (by rw [linkEq]; rfl)
        rw [selection, viewerEq]
        rfl
    | some asked =>
        rw [named, linked] at linkEq
        exact waits_of_names linkEq (Viewer.names_of_named? coherent named)

theorem Waits.withHistory (waits : Waits report view) (history : History) :
    Waits report (view.withHistory history) := by
  have linkEq : (view.withHistory history).link.map Link.followed =
      view.link.map Link.followed := by
    rw [SourceView.withHistory, Option.map_map]
    rfl
  exact waits.congr rfl linkEq

theorem Waits.useBar (coherent : report.Coherent) (inStep : InStep report view)
    (waits : Waits report view) (use : History.Step) : Waits report (view.useBar use).1 := by
  unfold SourceView.useBar
  split
  · exact waits
  · dsimp only
    split
    · exact ((waits.withHistory _).follow coherent (inStep.withHistory _) _).congr rfl rfl
    · exact waits

theorem Waits.of_step (coherent : report.Coherent) (addressable : report.Addressable)
    (inStep : InStep report view) (waits : Waits report view) {step : Step}
    (settled : step ≠ .restore) {outcome : Outcome} (taken : view.step step = .ok outcome) :
    Waits report outcome.view := by
  cases selects : step.selects with
  | true => exact waits.of_acts coherent addressable inStep (acts_of_step selects taken)
  | false =>
      cases step with
      | bar use => cases taken; exact waits.useBar coherent inStep use
      | address raw => cases taken; exact waits.follow coherent inStep raw
      | restore => exact absurd rfl settled
      | _ => cases selects

/-! ## Opening a page with a fragment -/

theorem waits_load (coherent : report.Coherent) (settings : SourceSettings)
    (bar : Option History) : Waits report (load report settings bar) := by
  rcases load_spec report settings (rfl : bar.getD (.ofFragment "") = _) rfl
    with ⟨viewerEq, linkEq⟩
  cases restored : (Viewer.ofReport report settings).started.restored?
      (Fragment.normalize (bar.getD (.ofFragment "")).fragment) with
  | none =>
      rw [restored] at viewerEq
      intro link _ _ _
      rw [selection, viewerEq]
      exact congrArg Selection.location (Viewer.started_ofReport coherent settings)
  | some asked =>
      rw [restored] at linkEq
      apply waits_of_names linkEq
      intro nonempty
      exact Viewer.names_of_named? coherent (Viewer.named?_of_restored? restored) nonempty

/-- Bar and selection stay in step along a run, and the view waits where it has to. -/
theorem exists_run_waits (coherent : report.Coherent) (addressable : report.Addressable)
    (settings : SourceSettings) (bar : Option History) (steps : List Step)
    (settled : ∀ step ∈ steps, step ≠ .restore) :
    ∃ view, (load report settings bar).run steps = .ok view ∧ InStep report view ∧
      Waits report view := by
  apply exists_run (fun view => InStep report view ∧ Waits report view) (· ≠ .restore) _ steps
    settled ⟨inStep_load coherent addressable settings bar, waits_load coherent settings bar⟩
  rintro view step other ⟨inStep, waits⟩
  rcases exists_step (inStep.report_eq.symm ▸ coherent) inStep.consistent step
    with ⟨outcome, taken⟩
  exact ⟨outcome, taken, inStep.of_step coherent addressable other taken,
    waits.of_step coherent addressable inStep other taken⟩

/-- A page that is opened with the id of a mutant or a location selects what the id asks
for, and starts in the first location if it asks for nothing. -/
theorem selection_load_of_id (coherent : report.Coherent) (addressable : report.Addressable)
    {fragment : String} (named : (report.mutant? fragment).isSome ∨
      ∃ location ∈ report.locations, location.id = fragment) (settings : SourceSettings) :
    (load report settings (some (.ofFragment fragment))).selection =
      ((Viewer.ofReport report settings).started.named? fragment).getD
        (Viewer.ofReport report settings).started.selection := by
  have fit : fragment ≠ "" ∧ Fragment.normalize fragment = fragment := by
    rcases named with known | ⟨location, member, rfl⟩
    · rcases Option.isSome_iff_exists.mp known with ⟨mutant, known⟩
      exact addressable.mutant?_kept coherent known
    · exact addressable.location?_kept (coherent.location?_of_mem member)
  have shown : Fragment.normalize (History.ofFragment fragment).fragment = fragment := by
    rw [History.fragment_ofFragment, fit.2, fit.2]
  have opened := (load_spec report settings
    (rfl : (some (History.ofFragment fragment)).getD (.ofFragment "") = _) shown).1
  rw [Viewer.restored?, if_neg fit.1] at opened
  exact congrArg Viewer.selection opened

section

variable (coherent : report.Coherent) (addressable : report.Addressable) {viewer : Viewer}
  (reportEq : viewer.report = report) {link : Link}
  (matched : report.Matches link.followed view.selection)

include coherent addressable reportEq matched

/-- If a listed mutant is remembered, it is active, and any viewer without filters finds
it in the same location. -/
theorem named?_of_remembered_mutant (once : report.ListsOnce) (inStep : InStep report view)
    (all : viewer.filters = .none) (listed : report.Lists link.followed) :
    viewer.named? link.followed =
      some ⟨view.selection.location, view.selection.mutant, viewer.selection.shows⟩ := by
  subst reportEq
  rcases listed with ⟨location, member, lists⟩
  rcases Option.isSome_iff_exists.mp (coherent.listed_known location member _ lists)
    with ⟨mutant, known⟩
  have active := (matched.mutant_iff mutant).mpr ⟨known, location, member, lists⟩
  rcases inStep.consistent.mutant_listed active with ⟨other, place, otherLists⟩
  have otherMember := inStep.consistent.location_mem place
  rw [inStep.report_eq] at otherMember
  rw [coherent.mutant_id known] at otherLists
  have same := once.location_eq otherMember member otherLists lists
  have passes : viewer.filters.passes mutant = true := by
    rw [all]
    rfl
  rw [active, show view.selection.location = some location from same ▸ place]
  exact Viewer.named?_of_listed coherent addressable once known passes member lists

/-- If a location is remembered, it is active without a mutant. -/
theorem named?_of_remembered_location {location : Location} (member : location ∈ report.locations)
    (remembered : location.id = link.followed) :
    viewer.named? link.followed =
      some ⟨view.selection.location, view.selection.mutant, viewer.selection.shows⟩ := by
  subst reportEq
  have found := coherent.location?_of_mem member
  rw [remembered] at found
  rcases matched.location found with ⟨located, cleared⟩
  rw [located, cleared, ← remembered]
  exact Viewer.named?_of_location coherent addressable member

/-- If another mutant is remembered, the view waits without a mutant, and no viewer finds
anything. -/
theorem named?_of_remembered_unlisted (waits : Waits report view)
    (linked : view.link = some link) (known : (report.mutant? link.followed).isSome)
    (unlisted : ¬ report.Lists link.followed) :
    viewer.named? link.followed = none ∧
      view.selection.location = report.locations.head? ∧ view.selection.mutant = none := by
  subst reportEq
  rcases Option.isSome_iff_exists.mp known with ⟨mutant, known⟩
  have nonempty := (addressable.mutant?_kept coherent known).1
  have unnamed : ¬ viewer.report.Names link.followed := by
    rintro ⟨-, lists | ⟨unknown, -⟩⟩
    · exact unlisted lists
    · rw [known] at unknown
      cases unknown
  refine ⟨Viewer.named?_of_not_names coherent nonempty unnamed,
    waits link linked nonempty unnamed, ?_⟩
  apply Option.eq_none_iff_forall_ne_some.mpr
  intro other active
  exact unlisted ((matched.mutant_iff other).mp active).2

end

/-- A remembered id leads back to what the view has selected. -/
theorem selection_load_of_remembered (coherent : report.Coherent)
    (addressable : report.Addressable) (once : report.ListsOnce) (inStep : InStep report view)
    (waits : Waits report view) {link : Link} (linked : view.link = some link)
    (named : (report.mutant? link.followed).isSome ∨
      ∃ location ∈ report.locations, location.id = link.followed) (settings : SourceSettings) :
    (load report settings (some (.ofFragment link.followed))).selection.location =
        view.selection.location ∧
      (load report settings (some (.ofFragment link.followed))).selection.mutant =
        view.selection.mutant := by
  rcases inStep.matched with ⟨_, found, matched⟩
  rw [linked] at found
  cases found
  rw [selection_load_of_id coherent addressable named settings]
  have reportEq : (Viewer.ofReport report settings).started.report = report := rfl
  by_cases listed : report.Lists link.followed
  · rw [named?_of_remembered_mutant coherent addressable reportEq matched once inStep rfl listed]
    exact ⟨rfl, rfl⟩
  · rcases named with known | ⟨location, member, remembered⟩
    · rcases named?_of_remembered_unlisted coherent addressable reportEq matched waits linked known
        listed with ⟨refused, waiting, cleared⟩
      rw [refused, waiting, cleared, Option.getD_none, Viewer.started_ofReport coherent]
      exact ⟨rfl, rfl⟩
    · rw [named?_of_remembered_location coherent addressable reportEq matched member remembered]
      exact ⟨rfl, rfl⟩

/-- Over a report from a dataset with ids that are fit for the bar and mutants that are
listed once, after any run from loading without another restoration: if the bar shows
the remembered fragment, and that is the id of a mutant or of a location, then a page
that is opened with the fragment has the same location and the same mutant selected. -/
theorem shared_fragment_selects_same {data : Json} {report : Report} {notes : List Note}
    (accepted : Report.ofJson data = .ok (report, notes)) (addressable : report.Addressable)
    (once : report.ListsOnce) (settings : SourceSettings) (bar : Option History)
    (steps : List Step) (settled : ∀ step ∈ steps, step ≠ .restore) :
    ∃ view link, (load report settings bar).run steps = .ok view ∧ view.link = some link ∧
      (link.history.fragment = link.followed ->
        (report.mutant? link.history.fragment).isSome ∨
          (∃ location ∈ report.locations, location.id = link.history.fragment) ->
        forall other : SourceSettings,
          (load report other (some (.ofFragment link.history.fragment))).selection.location =
              view.selection.location ∧
            (load report other (some (.ofFragment link.history.fragment))).selection.mutant =
              view.selection.mutant) := by
  have coherent := Report.coherent_of_ofJson accepted
  rcases exists_run_waits coherent addressable settings bar steps settled
    with ⟨view, ran, inStep, waits⟩
  rcases inStep.matched with ⟨link, linked, -⟩
  refine ⟨view, link, ran, linked, ?_⟩
  intro shown named other
  rw [shown] at named ⊢
  exact selection_load_of_remembered coherent addressable once inStep waits linked named other

/-- On the small report: a mutant is reached by traversals and a filter that is switched
back, and a page that is opened with its id has it selected at once. -/
theorem shared_fragment_of_sample :
    Report.ofJson Report.sampleData = .ok (Report.sample, []) ∧ Report.sample.Addressable ∧
      Report.sample.ListsOnce ∧
      ∃ view link, (load Report.sample .standard none).run
          [.walkLocations (some .backward), .walkMutants (some .forward) true,
            .switch (.status "killed"), .walkMutants (some .forward) true] = .ok view ∧
        view.link = some link ∧ link.history.fragment = "M1" ∧
        (load Report.sample .standard (some (.ofFragment "M1"))).selection.mutant =
          view.selection.mutant := by
  refine ⟨Report.sample_accepted, Report.sample_addressable, sample_listsOnce, ?_⟩
  rcases shared_fragment_selects_same Report.sample_accepted Report.sample_addressable
    sample_listsOnce .standard none
    [.walkLocations (some .backward), .walkMutants (some .forward) true,
      .switch (.status "killed"), .walkMutants (some .forward) true] (by simp)
    with ⟨view, link, ran, linked, leadsBack⟩
  have reached : ((load Report.sample .standard none).run
      [.walkLocations (some .backward), .walkMutants (some .forward) true,
        .switch (.status "killed"), .walkMutants (some .forward) true]).toOption.bind
      (fun view => view.link.map fun link => (link.history.fragment, link.followed)) =
      some ("M1", "M1") := by
    decide +kernel
  rw [ran] at reached
  simp only [Except.toOption, Option.bind_some, linked, Option.map_some, Option.some.injEq,
    Prod.mk.injEq] at reached
  rcases reached with ⟨shown, followed⟩
  have same := (leadsBack (shown.trans followed.symm)
    (.inl (by rw [shown]; decide +kernel)) .standard).2
  rw [shown] at same
  exact ⟨view, link, ran, linked, shown, same⟩

end SourceView
end MutationViewer
