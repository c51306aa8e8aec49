import MutationViewer.Proofs.Source.Runs

/-!
# The link keeps bar and selection in step

The link remembers one fragment, the one last written or followed, and ignores
it when it is delivered again.  That is sound only if the remembered fragment
always stands for the selection as it is, however the two got there: the bar may
show something that was refused, filters may have cleared the mutant, and
selections made by the link itself are never written.

`Matches` says what it means for a fragment to stand for a selection.  It holds
after loading, and every step keeps it.  Ids have to be fit for the bar: an empty
id, one that the bar changes, or one shared by a mutant and a location could not
be told from another fragment.
-/

namespace MutationViewer

/-- No id is empty or changed by the bar, and none names both a mutant and a
location. -/
structure Report.Addressable (report : Report) : Prop where
  mutant_kept : ∀ mutant ∈ report.mutants.values,
    mutant.id ≠ "" ∧ Fragment.normalize mutant.id = mutant.id
  location_kept : ∀ location ∈ report.locations,
    location.id ≠ "" ∧ Fragment.normalize location.id = location.id
  apart : ∀ location ∈ report.locations, ∀ mutant ∈ report.mutants.values,
    location.id ≠ mutant.id

/-- The fragment stands for the selection: if it is the id of a listed mutant,
that mutant is the active one, and otherwise there is none; if it is the id of a
location, just that location is active. -/
structure Report.Matches (report : Report) (fragment : String) (selection : Selection) :
    Prop where
  mutant_iff : forall mutant, selection.mutant = some mutant ↔
    report.mutant? fragment = some mutant ∧ report.Lists fragment
  location : forall {location}, report.location? fragment = some location ->
    selection.location = some location ∧ selection.mutant = none

namespace Report

variable {report : Report}

/-- Whether the mutant is shown plays no part in it. -/
theorem Matches.congr {fragment : String} {selection other : Selection}
    (matched : report.Matches fragment selection) (locationEq : other.location = selection.location)
    (mutantEq : other.mutant = selection.mutant) : report.Matches fragment other where
  mutant_iff mutant := by
    rw [mutantEq]
    exact matched.mutant_iff mutant
  location found := by
    rw [locationEq, mutantEq]
    exact matched.location found

theorem mem_values_of_mutant? {id : String} {mutant : Mutant}
    (known : report.mutant? id = some mutant) : mutant ∈ report.mutants.values :=
  List.mem_map.mpr ⟨(id, mutant), (report.mutants.get?_eq_some_iff id mutant).mp known, rfl⟩

namespace Addressable

theorem mutant?_kept (addressable : report.Addressable) (coherent : report.Coherent)
    {id : String} {mutant : Mutant} (known : report.mutant? id = some mutant) :
    id ≠ "" ∧ Fragment.normalize id = id := by
  have kept := addressable.mutant_kept mutant (mem_values_of_mutant? known)
  rwa [coherent.mutant_id known] at kept

theorem location?_kept (addressable : report.Addressable) {id : String} {location : Location}
    (found : report.location? id = some location) : id ≠ "" ∧ Fragment.normalize id = id := by
  have kept := addressable.location_kept location (location?_mem found)
  rwa [location?_id found] at kept

theorem mutant?_of_location? (addressable : report.Addressable) (coherent : report.Coherent)
    {id : String} {location : Location} (found : report.location? id = some location) :
    report.mutant? id = none := by
  cases known : report.mutant? id with
  | none => rfl
  | some mutant =>
      have same : location.id = mutant.id :=
        (location?_id found).trans (coherent.mutant_id known).symm
      exact absurd same
        (addressable.apart location (location?_mem found) mutant (mem_values_of_mutant? known))

theorem mutant?_empty (addressable : report.Addressable) (coherent : report.Coherent) :
    report.mutant? "" = none := by
  cases known : report.mutant? "" with
  | none => rfl
  | some mutant => exact absurd rfl (addressable.mutant?_kept coherent known).1

theorem location?_empty (addressable : report.Addressable) : report.location? "" = none := by
  cases found : report.location? "" with
  | none => rfl
  | some location => exact absurd rfl (addressable.location?_kept found).1

theorem mutant_eq_none_of_matches_empty (addressable : report.Addressable)
    (coherent : report.Coherent) {selection : Selection} (matched : report.Matches "" selection) :
    selection.mutant = none := by
  apply Option.eq_none_iff_forall_ne_some.mpr
  intro mutant active
  have known := ((matched.mutant_iff mutant).mp active).1
  rw [addressable.mutant?_empty coherent] at known
  cases known

/-- A fragment that is no id stands for every selection without a mutant. -/
theorem matches_of_no_mutant {fragment : String} {selection : Selection}
    (cleared : selection.mutant = none)
    (unlisted : report.mutant? fragment = none ∨ ¬ report.Lists fragment)
    (unlocated : report.location? fragment = none) : report.Matches fragment selection where
  mutant_iff mutant := by
    constructor
    · intro active
      rw [cleared] at active
      cases active
    · intro listed
      rcases unlisted with unknown | unlisted
      · rw [unknown] at listed
        cases listed.1
      · exact absurd listed.2 unlisted
  location found := by
    rw [unlocated] at found
    cases found

theorem matches_location (addressable : report.Addressable) (coherent : report.Coherent)
    {fragment : String} {location : Location} {selection : Selection}
    (found : report.location? fragment = some location)
    (located : selection.location = some location) (cleared : selection.mutant = none) :
    report.Matches fragment selection where
  mutant_iff mutant := by
    rw [cleared, addressable.mutant?_of_location? coherent found]
    simp
  location other := by
    rw [found] at other
    cases other
    exact ⟨located, cleared⟩

theorem matches_mutant (addressable : report.Addressable) (coherent : report.Coherent)
    {fragment : String} {mutant : Mutant} {selection : Selection}
    (known : report.mutant? fragment = some mutant) (listed : report.Lists fragment)
    (active : selection.mutant = some mutant) : report.Matches fragment selection where
  mutant_iff other := by
    rw [active, known]
    exact ⟨fun same => ⟨same, listed⟩, fun same => same.1⟩
  location found := by
    rw [addressable.mutant?_of_location? coherent found] at known
    cases known

end Addressable
end Report

theorem Report.sample_addressable : Report.sample.Addressable where
  mutant_kept := by decide +kernel
  location_kept := by decide +kernel
  apart := by decide +kernel

/-! ## What is written stands for the selection -/

namespace Viewer

variable {viewer : Viewer}

/-- The fragment of a selection stands for it, and the bar shows it unchanged.
After a change of location there has to be a location. -/
theorem Consistent.fragmentOf_spec (consistent : viewer.Consistent)
    (coherent : viewer.report.Coherent) (addressable : viewer.report.Addressable) {cause : Cause}
    (located : cause = .location -> viewer.selection.location.isSome) :
    viewer.report.Matches (SourceView.fragmentOf cause viewer.selection) viewer.selection ∧
      Fragment.normalize (SourceView.fragmentOf cause viewer.selection) =
        SourceView.fragmentOf cause viewer.selection := by
  unfold SourceView.fragmentOf
  cases active : viewer.selection.mutant with
  | some mutant =>
      have known := consistent.mutant_known active
      rcases consistent.mutant_listed active with ⟨location, place, listed⟩
      exact ⟨addressable.matches_mutant coherent known
          ⟨location, consistent.location_mem place, listed⟩ active,
        (addressable.mutant?_kept coherent known).2⟩
  | none =>
      cases cause with
      | mutant =>
          have unknown := addressable.mutant?_empty coherent
          exact ⟨Report.Addressable.matches_of_no_mutant active (.inl unknown)
            addressable.location?_empty, rfl⟩
      | location =>
          rcases Option.isSome_iff_exists.mp (located rfl) with ⟨location, place⟩
          have found := coherent.location?_of_mem (consistent.location_mem place)
          rw [place]
          exact ⟨addressable.matches_location coherent found place active,
            (addressable.location?_kept found).2⟩

/-- What a fragment asks for is a selection that it stands for. -/
theorem matches_of_named? (coherent : viewer.report.Coherent)
    (addressable : viewer.report.Addressable) {fragment : String} {selection : Selection}
    (named : viewer.named? fragment = some selection) :
    viewer.report.Matches fragment selection := by
  unfold named? at named
  split at named
  · next empty =>
      subst empty
      rcases Option.map_eq_some_iff.mp named with ⟨location, -, rfl⟩
      exact Report.Addressable.matches_of_no_mutant rfl (.inl (addressable.mutant?_empty coherent))
        addressable.location?_empty
  · split at named
    · next mutant known =>
        split at named
        · rcases Option.map_eq_some_iff.mp named with ⟨location, owned, rfl⟩
          have listed := (Report.owner?_isSome_iff _ fragment).mp (by rw [owned]; rfl)
          exact addressable.matches_mutant coherent known listed rfl
        · cases named
    · rcases Option.map_eq_some_iff.mp named with ⟨location, found, rfl⟩
      exact addressable.matches_location coherent found rfl rfl

/-- Whatever is selected, starting leads to the first location, if there is one, and to no
mutant. -/
theorem Consistent.started_selection (consistent : viewer.Consistent)
    (coherent : viewer.report.Coherent) :
    viewer.started.selection =
      ⟨viewer.report.locations.head?, none, viewer.selection.shows⟩ := by
  unfold started start
  cases locations : viewer.report.locations with
  | nil =>
      have unlocated : viewer.selection.location = none := by
        apply Option.eq_none_iff_forall_ne_some.mpr
        intro location active
        have member := consistent.location_mem active
        rw [locations] at member
        cases member
      have cleared := consistent.mutant_eq_none unlocated
      change viewer.selection = ⟨none, none, _⟩
      rw [← unlocated, ← cleared]
  | cons first rest =>
      have found := coherent.location?_of_mem (locations ▸ List.mem_cons_self : first ∈ _)
      exact goTo_afresh found

theorem started_ofReport {report : Report} (coherent : report.Coherent)
    (settings : SourceSettings) :
    (Viewer.ofReport report settings).started.selection = ⟨report.locations.head?, none, true⟩ :=
  (consistent_of_no_selection rfl rfl).started_selection coherent

end Viewer

namespace SourceView

def announcements (view : SourceView) : List Announcement :=
  view.effects.filterMap Effect.announcement?

section

variable {view : SourceView}

theorem announcements_note (note : Option Note) :
    (view.note note).announcements = view.announcements := by
  cases note with
  | none => rfl
  | some note => simp [announcements, SourceView.note, Effect.announcement?]

theorem announcements_paint (paints : List Paint) :
    (view.paint paints).announcements = view.announcements := by
  have silent : (paints.map fun paint => (Effect.paint paint : SourceEffect)).filterMap
      Effect.announcement? = [] := by
    induction paints with
    | nil => rfl
    | cons paint paints ih => simp [Effect.announcement?]
  simp only [announcements, SourceView.paint, List.filterMap_append, silent, List.append_nil]

theorem announcements_centerFrom (before : Option Location) :
    (view.centerFrom before).announcements = view.announcements := by
  unfold centerFrom
  split
  · rfl
  · split
    · exact announcements_paint _
    · rfl

theorem announcements_perform_of_no_cause {move : Move} (silent : move.cause = none) :
    (view.perform move).announcements = view.announcements := by
  have carried : (view.carryOut move).announcements = view.announcements := by
    rw [carryOut, announcements_paint, announcements_note]
    rfl
  unfold perform
  rw [silent]
  dsimp only
  split
  · rw [announcements_centerFrom, carried]
  · exact carried

/-- A fragment that the bar shows unchanged is written without an echo: the bar
calls the link back with the fragment that it has just remembered. -/
theorem lead_spec {cause : Cause} {link : Link} (linked : view.link = some link)
    (kept : Fragment.normalize (fragmentOf cause view.selection) =
      fragmentOf cause view.selection) :
    (view.lead cause).viewer = view.viewer ∧
      ∃ history, (view.lead cause).link = some ⟨history, fragmentOf cause view.selection⟩ ∧
        history.fragment = fragmentOf cause view.selection := by
  unfold lead
  rw [linked]
  dsimp only
  cases wrote : link.history.write? (fragmentOf cause view.selection) with
  | none =>
      have shown := (History.write?_eq_none_iff _ _).mp wrote
      refine ⟨rfl, link.history, ?_, shown.symm.trans kept⟩
      simp [withFollowed, linked]
  | some written =>
      have shown := (History.fragment_of_write? wrote).trans kept
      have relinked : ((view.withFollowed (fragmentOf cause view.selection)).withHistory
          written).link = some ⟨written, fragmentOf cause view.selection⟩ := by
        simp [withFollowed, withHistory, linked]
      have echo : Fragment.ofOption (some written.fragment) =
          fragmentOf cause view.selection := by
        rw [Fragment.ofOption_some, shown, kept]
      have ignored := follow_of_followed relinked echo
      simp only [hear, ignored]
      exact ⟨rfl, written, relinked, shown⟩

end

/-! ## Bar and selection in step -/

/-- The selection is consistent, and the remembered fragment stands for it. -/
structure InStep (report : Report) (view : SourceView) : Prop where
  report_eq : view.viewer.report = report
  consistent : view.viewer.Consistent
  matched : ∃ link, view.link = some link ∧ report.Matches link.followed view.selection

variable {report : Report} {view : SourceView}

theorem InStep.of_frame {viewer : Viewer} {link : Link} (viewerEq : view.viewer = viewer)
    (linkEq : view.link = some link) (reportEq : viewer.report = report)
    (consistent : viewer.Consistent) (matched : report.Matches link.followed viewer.selection) :
    InStep report view := by
  subst viewerEq
  exact ⟨reportEq, consistent, link, linkEq, matched⟩

/-- An announced move comes to just its selection, and the link remembers and shows the
fragment of that, if the bar shows the fragment unchanged. -/
theorem perform_spec_of_cause {view : SourceView} {move : Move} {cause : Cause}
    (spoken : move.cause = some cause) {link : Link} (linked : view.link = some link)
    (kept : Fragment.normalize (fragmentOf cause move.selection) =
      fragmentOf cause move.selection) :
    (view.perform move).viewer = view.viewer.withSelection move.selection ∧
      ∃ history, (view.perform move).link = some ⟨history, fragmentOf cause move.selection⟩ ∧
        history.fragment = fragmentOf cause move.selection := by
  have frame := view.perform_frame move
  rw [spoken] at frame
  have carriedViewer := view.viewer_carryOut move
  have carriedLink := (view.link_carryOut move).trans linked
  have selectionEq : (view.carryOut move).selection = move.selection := by
    rw [selection, carriedViewer]
    rfl
  rcases lead_spec carriedLink (by rw [selectionEq]; exact kept) with
    ⟨ledViewer, history, ledLink, shown⟩
  rw [selectionEq] at ledLink shown
  refine ⟨?_, history, frame.2.trans ledLink, shown⟩
  rw [frame.1, ledViewer, carriedViewer]

/-- What is left of a view when it is asked for a selection: either nothing is announced,
and location, mutant and link stay, or the link remembers and shows the fragment of
what is selected then. -/
def Leaves (view next : SourceView) : Prop :=
  (next.announcements = view.announcements ∧ next.link = view.link ∧
      next.selection.location = view.selection.location ∧
      next.selection.mutant = view.selection.mutant) ∨
    ∃ cause history, next.link = some ⟨history, fragmentOf cause next.selection⟩ ∧
      history.fragment = fragmentOf cause next.selection ∧
      (cause = .location -> next.selection.location.isSome)

theorem leaves_perform_of_no_cause (view : SourceView) {move : Move} (silent : move.cause = none)
    (locationEq : move.selection.location = view.selection.location)
    (mutantEq : move.selection.mutant = view.selection.mutant) : view.Leaves (view.perform move) := by
  have selected : (view.perform move).selection = move.selection := by
    rw [selection, viewer_perform_of_no_cause view silent]
    rfl
  left
  rw [selected]
  exact ⟨announcements_perform_of_no_cause silent, link_perform_of_no_cause view silent,
    locationEq, mutantEq⟩

theorem leaves_perform_of_cause (view : SourceView) {move : Move} {cause : Cause}
    (spoken : move.cause = some cause) (coherent : view.viewer.report.Coherent)
    (addressable : view.viewer.report.Addressable)
    (consistent : (view.viewer.withSelection move.selection).Consistent)
    (located : cause = .location -> move.selection.location.isSome)
    (linked : view.link.isSome) : view.Leaves (view.perform move) := by
  rcases Option.isSome_iff_exists.mp linked with ⟨link, found⟩
  have kept := (consistent.fragmentOf_spec coherent addressable located).2
  rcases perform_spec_of_cause spoken found kept with ⟨viewerEq, history, linkEq, shown⟩
  have selected : (view.perform move).selection = move.selection := by
    rw [selection, viewerEq]
    rfl
  right
  rw [selected]
  exact ⟨cause, history, linkEq, shown, located⟩

/-- Whatever selection is asked for, one of the two is left. -/
theorem Acts.leaves {next : SourceView} (acts : view.Acts next)
    (coherent : view.viewer.report.Coherent) (addressable : view.viewer.report.Addressable)
    (consistent : view.viewer.Consistent) (linked : view.link.isSome) : view.Leaves next := by
  cases acts with
  | idle => exact .inl ⟨rfl, rfl, rfl, rfl⟩
  | performed move elementary =>
      have allowed : view.viewer.Reaches move.selection move.cause := elementary.allows
      have consistentNow := allowed.consistent coherent consistent
      cases cause : move.cause with
      | none =>
          rw [cause] at allowed
          exact view.leaves_perform_of_no_cause cause allowed.same_of_no_cause.1
            allowed.same_of_no_cause.2
      | some said =>
          apply view.leaves_perform_of_cause cause coherent addressable consistentNow _ linked
          rintro rfl
          rw [cause] at allowed
          exact allowed.located_of_cause
  | switched switch =>
      let switched : SourceView := { view with viewer := view.viewer.switched switch }
      have consistentNow := consistent.afterSwitch switch
      rcases switched.viewer.afterSwitch_cause switch with ⟨silent, same⟩ | spoken
      · exact switched.leaves_perform_of_no_cause silent (congrArg Selection.location same)
          (congrArg Selection.mutant same)
      · exact switched.leaves_perform_of_cause spoken coherent addressable consistentNow (by simp)
          linked

theorem InStep.of_acts (coherent : report.Coherent) (addressable : report.Addressable)
    (inStep : InStep report view) {next : SourceView} (acts : view.Acts next) :
    InStep report next ∧ ∃ link, next.link = some link ∧
      (next.announcements ≠ view.announcements -> link.history.fragment = link.followed) := by
  rcases inStep with ⟨rfl, consistent, link, linked, matched⟩
  have kept := acts.keeps
  have consistentNow := kept.consistent coherent consistent
  rcases acts.leaves coherent addressable consistent (by rw [linked]; rfl)
    with ⟨silent, linkEq, locationEq, mutantEq⟩ | ⟨cause, history, linkEq, shown, located⟩
  · refine ⟨⟨kept.report_eq, consistentNow, link, linkEq.trans linked, ?_⟩, link,
      linkEq.trans linked, fun announced => absurd silent announced⟩
    exact matched.congr locationEq mutantEq
  · have spoken := consistentNow.fragmentOf_spec (kept.report_eq.symm ▸ coherent)
      (kept.report_eq.symm ▸ addressable) located
    rw [kept.report_eq] at spoken
    exact ⟨⟨kept.report_eq, consistentNow, _, linkEq, spoken.1⟩, _, linkEq, fun _ => shown⟩

theorem InStep.follow (coherent : report.Coherent) (addressable : report.Addressable)
    (inStep : InStep report view) (raw : Option String) : InStep report (view.follow raw) := by
  rcases inStep.matched with ⟨link, linked, matched⟩
  by_cases same : Fragment.ofOption raw = link.followed
  · rw [follow_of_followed linked same]
    exact inStep
  · have reportEq := inStep.report_eq
    subst reportEq
    rw [follow_of_ne_followed linked same]
    rcases view.followFragment_spec (Fragment.ofOption raw) with ⟨viewerEq, linkEq⟩
    rw [linked] at linkEq
    cases named : view.viewer.named? (Fragment.ofOption raw) with
    | none =>
        rw [named] at viewerEq linkEq
        exact .of_frame viewerEq linkEq rfl inStep.consistent matched
    | some chosen =>
        rw [named] at viewerEq linkEq
        rcases Viewer.reaches_of_named? named with ⟨cause, reached⟩
        exact .of_frame viewerEq linkEq rfl (reached.consistent coherent inStep.consistent)
          (Viewer.matches_of_named? coherent addressable named)

theorem InStep.withHistory (inStep : InStep report view) (history : History) :
    InStep report (view.withHistory history) := by
  rcases inStep.matched with ⟨link, linked, matched⟩
  have relinked : (view.withHistory history).link = some ⟨history, link.followed⟩ := by
    simp [SourceView.withHistory, linked]
  exact ⟨inStep.report_eq, inStep.consistent, _, relinked, matched⟩

theorem InStep.hear (coherent : report.Coherent) (addressable : report.Addressable)
    (inStep : InStep report view) (history : History) : InStep report (view.hear history) := by
  have heard := (inStep.withHistory history).follow coherent addressable (some history.fragment)
  exact ⟨heard.report_eq, heard.consistent, heard.matched⟩

theorem InStep.useBar (coherent : report.Coherent) (addressable : report.Addressable)
    (inStep : InStep report view) (use : History.Step) :
    InStep report (view.useBar use).1 := by
  unfold SourceView.useBar
  split
  · exact inStep
  · dsimp only
    split
    · exact inStep.hear coherent addressable _
    · exact inStep

/-- Every step but a restoring one keeps bar and selection in step. -/
theorem InStep.of_step (coherent : report.Coherent) (addressable : report.Addressable)
    (inStep : InStep report view) {step : Step} (settled : step ≠ .restore) {outcome : Outcome}
    (taken : view.step step = .ok outcome) : InStep report outcome.view := by
  cases selects : step.selects with
  | true => exact (inStep.of_acts coherent addressable (acts_of_step selects taken)).1
  | false =>
      cases step with
      | bar use => cases taken; exact inStep.useBar coherent addressable use
      | address raw => cases taken; exact inStep.follow coherent addressable raw
      | restore => exact absurd rfl settled
      | _ => cases selects

/-- Nothing is excluded at first, so the id of a listed mutant or of a location
can be had.  Ids are in their kept form, so no other fragment is one either. -/
theorem matches_of_not_restored (addressable : report.Addressable)
    (coherent : report.Coherent) {viewer : Viewer} (reportEq : viewer.report = report)
    (all : viewer.filters = .none) (cleared : viewer.selection.mutant = none) {fragment : String}
    (refused : viewer.restored? (Fragment.normalize fragment) = none) :
    report.Matches fragment viewer.selection := by
  subst reportEq
  apply Report.Addressable.matches_of_no_mutant cleared
  · by_cases listed : viewer.report.Lists fragment
    · left
      apply Option.eq_none_iff_forall_ne_some.mpr
      intro mutant known
      rcases addressable.mutant?_kept coherent known with ⟨nonempty, kept⟩
      rcases Option.isSome_iff_exists.mp ((Report.owner?_isSome_iff _ fragment).mpr listed)
        with ⟨location, owned⟩
      have passes : viewer.filters.passes mutant = true := by
        rw [all]
        rfl
      rw [kept] at refused
      simp [Viewer.restored?, Viewer.named?, nonempty, known, passes, owned] at refused
    · exact .inr listed
  · apply Option.eq_none_iff_forall_ne_some.mpr
    intro location found
    rcases addressable.location?_kept found with ⟨nonempty, kept⟩
    have unknown := addressable.mutant?_of_location? coherent found
    rw [kept] at refused
    simp [Viewer.restored?, Viewer.named?, nonempty, unknown, found] at refused

/-- What a page shows after loading, and what its link remembers. -/
theorem load_spec (report : Report) (settings : SourceSettings) {bar : Option History}
    {history : History} (shown : bar.getD (.ofFragment "") = history) {fragment : String}
    (kept : Fragment.normalize history.fragment = fragment) :
    (load report settings bar).viewer = (Viewer.ofReport report settings).started.withSelection
        (((Viewer.ofReport report settings).started.restored? fragment).getD
          (Viewer.ofReport report settings).started.selection) ∧
      (load report settings bar).link =
        some (if ((Viewer.ofReport report settings).started.restored? fragment).isSome then
          ⟨history, fragment⟩ else .ofHistory history) := by
  rw [load, shown]
  have linked : (ofReport report settings settings.keys (some history)).link =
      some (.ofHistory history) := rfl
  exact restore_spec linked kept

/-- After loading, the link remembers a fragment that stands for the selection:
the bar's, followed or not. -/
theorem inStep_load (coherent : report.Coherent) (addressable : report.Addressable)
    (settings : SourceSettings) (bar : Option History) :
    InStep report (load report settings bar) := by
  have consistent : (Viewer.ofReport report settings).started.Consistent :=
    (Viewer.ofReport report settings).allows_start.consistent coherent
      (consistent_ofReport report settings settings.keys bar)
  rcases load_spec report settings (rfl : bar.getD (.ofFragment "") = _) rfl
    with ⟨viewerEq, linkEq⟩
  cases asked : (Viewer.ofReport report settings).started.restored?
      (Fragment.normalize (bar.getD (.ofFragment "")).fragment) with
  | none =>
      rw [asked] at viewerEq linkEq
      have cleared := congrArg Selection.mutant (Viewer.started_ofReport coherent settings)
      exact .of_frame viewerEq linkEq rfl consistent
        (matches_of_not_restored addressable coherent rfl rfl cleared asked)
  | some chosen =>
      rw [asked] at viewerEq linkEq
      have named := Viewer.named?_of_restored? asked
      rcases Viewer.reaches_of_named? named with ⟨cause, reached⟩
      exact .of_frame viewerEq linkEq rfl (reached.consistent coherent consistent)
        (Viewer.matches_of_named? coherent addressable named)

/-- No run after loading fails, as long as nothing is restored again, and bar and
selection stay in step. -/
theorem exists_run_inStep (coherent : report.Coherent) (addressable : report.Addressable)
    (settings : SourceSettings) (bar : Option History) (steps : List Step)
    (settled : ∀ step ∈ steps, step ≠ .restore) :
    ∃ view, (load report settings bar).run steps = .ok view ∧ InStep report view := by
  apply exists_run (InStep report) (· ≠ .restore) _ steps settled
    (inStep_load coherent addressable settings bar)
  intro view step other inStep
  rcases exists_step (inStep.report_eq.symm ▸ coherent) inStep.consistent step
    with ⟨outcome, taken⟩
  exact ⟨outcome, taken, inStep.of_step coherent addressable other taken⟩

/-- Over a report from a dataset with ids that are fit for the bar, no run after
loading fails, as long as nothing is restored again.  A mutant is active exactly
if the fragment that the link remembers is the id of a mutant that some location
lists, and it is that mutant.  If the fragment is the id of a location, that
location is active without a mutant; if it is empty, no mutant is active.  And
whatever selection is asked for next, the bar shows the remembered fragment
whenever the selection is announced. -/
theorem followed_fragment_stands_for_selection {data : Json} {report : Report} {notes : List Note}
    (accepted : Report.ofJson data = .ok (report, notes)) (addressable : report.Addressable)
    (settings : SourceSettings) (bar : Option History) (steps : List Step)
    (settled : ∀ step ∈ steps, step ≠ .restore) :
    ∃ view link, (load report settings bar).run steps = .ok view ∧ view.link = some link ∧
      (forall mutant, view.selection.mutant = some mutant ↔
        report.mutant? link.followed = some mutant ∧
          ∃ location ∈ report.locations, link.followed ∈ location.mutantIds) ∧
      (∀ location ∈ report.locations, location.id = link.followed ->
        view.selection.location = some location ∧ view.selection.mutant = none) ∧
      (link.followed = "" -> view.selection.mutant = none) ∧
      forall step, step.selects = true -> ∃ outcome next, view.step step = .ok outcome ∧
        outcome.view.link = some next ∧
        (outcome.view.announcements ≠ view.announcements ->
          next.history.fragment = next.followed) := by
  have coherent := Report.coherent_of_ofJson accepted
  rcases exists_run_inStep coherent addressable settings bar steps settled
    with ⟨view, ran, inStep⟩
  rcases inStep.matched with ⟨link, linked, matched⟩
  refine ⟨view, link, ran, linked, matched.mutant_iff, ?_, ?_, ?_⟩
  · intro location member named
    have found := coherent.location?_of_mem member
    rw [named] at found
    exact matched.location found
  · intro empty
    rw [empty] at matched
    exact addressable.mutant_eq_none_of_matches_empty coherent matched
  · intro step selects
    rcases exists_step (inStep.report_eq.symm ▸ coherent) inStep.consistent step
      with ⟨outcome, taken⟩
    rcases inStep.of_acts coherent addressable (acts_of_step selects taken)
      with ⟨-, next, nextLinked, shown⟩
    exact ⟨outcome, next, taken, nextLinked, shown⟩

/-- On the small report: the bar follows a traversal and leads back from it. -/
theorem followed_fragment_on_sample :
    Report.ofJson Report.sampleData = .ok (Report.sample, []) ∧ Report.sample.Addressable ∧
      ∃ view link, (load Report.sample .standard (some (.ofFragment "#M3"))).run
          [.walkMutants (some .forward) true, .goTo "L2" true, .bar .back] = .ok view ∧
        view.link = some link ∧ link.followed = "M1" ∧
        view.selection.mutant = some (Report.sampleMutant "M1" "alive" "ror") := by
  refine ⟨Report.sample_accepted, Report.sample_addressable, ?_⟩
  rcases followed_fragment_stands_for_selection Report.sample_accepted Report.sample_addressable
    .standard (some (.ofFragment "#M3"))
    [.walkMutants (some .forward) true, .goTo "L2" true, .bar .back] (by simp)
    with ⟨view, link, ran, linked, active_iff, -⟩
  have followed : ((load Report.sample .standard (some (.ofFragment "#M3"))).run
      [.walkMutants (some .forward) true, .goTo "L2" true, .bar .back]).toOption.bind
      (fun view => view.link.map Link.followed) = some "M1" := by
    decide +kernel
  rw [ran] at followed
  simp only [Except.toOption, Option.bind_some, linked, Option.map_some, Option.some.injEq]
    at followed
  refine ⟨view, link, ran, linked, followed, (active_iff _).mpr ?_⟩
  rw [followed]
  exact ⟨by decide +kernel, ⟨"L1", ["M1", "M2"]⟩, by simp [Report.sample], by simp⟩

end SourceView
end MutationViewer
