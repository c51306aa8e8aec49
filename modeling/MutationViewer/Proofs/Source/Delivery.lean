import Mathlib.Data.List.Pairwise
import MutationViewer.Proofs.Report.Records
import MutationViewer.Proofs.Source.Link

/-!
# What a fragment leads to

A delivered fragment is obeyed, refused, or ignored because the link remembers it.  With bar and
selection in step, an ignored fragment asks for the selection that is there already, so the
three cases can be told as one: the selection becomes what the fragment asks for, and stays
where that cannot be had.  The mutants have to be listed once each, or the remembered id could
stand for a mutant that is active in another of its locations.

A page starts in the first location and then selects what the bar names, if that is anything.
Ids may be any text there, the same one for a mutant and a location included; then the mutant
counts, and it counts also if no location lists it.  The bar keeps a fragment without one mark,
and opening takes a second one off, so the fragment that is looked up need not be the one on
show.  Whatever is selected, nothing is written to the bar.
-/

namespace MutationViewer

/-- No mutant is listed twice, be it by one location or by two. -/
def Report.ListsOnce (report : Report) : Prop :=
  (report.locations.flatMap Location.mutantIds).Nodup

theorem Report.ListsOnce.location_eq {report : Report} (once : report.ListsOnce) {id : String}
    {first second : Location} (firstMem : first ∈ report.locations)
    (secondMem : second ∈ report.locations) (firstLists : id ∈ first.mutantIds)
    (secondLists : id ∈ second.mutantIds) : first = second := by
  by_contra different
  have apart := (List.nodup_flatMap.mp once).2
  have symmetric : Std.Symm (Function.onFun List.Disjoint Location.mutantIds) :=
    ⟨fun _ _ disjoint => List.disjoint_symm disjoint⟩
  exact apart.forall firstMem secondMem different firstLists secondLists

theorem Report.ListsOnce.owner?_eq {report : Report} (once : report.ListsOnce)
    (coherent : report.Coherent) {location : Location} (member : location ∈ report.locations)
    {id : String} (listed : id ∈ location.mutantIds) : report.owner? id = some location := by
  have owned := (Report.owner?_isSome_iff _ id).mpr ⟨location, member, listed⟩
  rcases Option.isSome_iff_exists.mp owned with ⟨owner, owned⟩
  rcases coherent.owner?_spec owned with ⟨ownerMember, ownerLists⟩
  rw [owned, once.location_eq ownerMember member ownerLists listed]

/-- Without filters the fragment asks for a mutant or for a location. -/
def Report.Names (report : Report) (fragment : String) : Prop :=
  fragment ≠ "" ∧ (report.Lists fragment ∨
    report.mutant? fragment = none ∧ ∃ location ∈ report.locations, location.id = fragment)

namespace Viewer

variable {viewer : Viewer} {fragment : String}

/-! ## What a fragment asks for -/

/-- The id of a listed mutant that passes asks for it in the location that it belongs to. -/
theorem named?_of_passes (nonempty : fragment ≠ "")
    {mutant : Mutant} (known : viewer.report.mutant? fragment = some mutant)
    (passes : viewer.filters.passes mutant = true) (listed : viewer.report.Lists fragment) :
    viewer.named? fragment =
      some ⟨viewer.report.owner? fragment, some mutant, viewer.selection.shows⟩ := by
  rcases Option.isSome_iff_exists.mp ((Report.owner?_isSome_iff _ fragment).mpr listed)
    with ⟨owner, owned⟩
  simp [named?, nonempty, known, passes, owned]

theorem named?_of_listed (coherent : viewer.report.Coherent)
    (addressable : viewer.report.Addressable) (once : viewer.report.ListsOnce) {mutant : Mutant}
    {location : Location} (known : viewer.report.mutant? fragment = some mutant)
    (passes : viewer.filters.passes mutant = true) (member : location ∈ viewer.report.locations)
    (listed : fragment ∈ location.mutantIds) :
    viewer.named? fragment = some ⟨some location, some mutant, viewer.selection.shows⟩ := by
  have nonempty := (addressable.mutant?_kept coherent known).1
  rw [named?_of_passes nonempty known passes ⟨location, member, listed⟩,
    once.owner?_eq coherent member listed]

/-- The id of a location asks for it, unless it is the id of a mutant as well. -/
theorem named?_of_known (coherent : viewer.report.Coherent) {location : Location}
    (member : location ∈ viewer.report.locations) (nonempty : location.id ≠ "")
    (unknown : viewer.report.mutant? location.id = none) :
    viewer.named? location.id = some ⟨some location, none, viewer.selection.shows⟩ := by
  have found := coherent.location?_of_mem member
  simp [named?, nonempty, unknown, found]

theorem named?_of_location (coherent : viewer.report.Coherent)
    (addressable : viewer.report.Addressable) {location : Location}
    (member : location ∈ viewer.report.locations) :
    viewer.named? location.id = some ⟨some location, none, viewer.selection.shows⟩ := by
  have found := coherent.location?_of_mem member
  exact named?_of_known coherent member (addressable.location?_kept found).1
    (addressable.mutant?_of_location? coherent found)

theorem named?_of_lists (coherent : viewer.report.Coherent) (all : viewer.filters = .none)
    (nonempty : fragment ≠ "") (listed : viewer.report.Lists fragment) :
    ∃ mutant location, viewer.report.mutant? fragment = some mutant ∧
      viewer.report.owner? fragment = some location ∧
      viewer.named? fragment = some ⟨some location, some mutant, viewer.selection.shows⟩ := by
  rcases Option.isSome_iff_exists.mp ((Report.owner?_isSome_iff _ fragment).mpr listed)
    with ⟨owner, owned⟩
  have ⟨location, member, lists⟩ := listed
  rcases Option.isSome_iff_exists.mp (coherent.listed_known location member fragment lists)
    with ⟨mutant, known⟩
  have passes : viewer.filters.passes mutant = true := by
    rw [all]
    rfl
  exact ⟨mutant, owner, known, owned,
    owned ▸ named?_of_passes nonempty known passes listed⟩

/-- A fragment cannot be had if it is neither empty, nor a mutant that is listed
and passes, nor a location. -/
theorem named?_eq_none (coherent : viewer.report.Coherent) (nonempty : fragment ≠ "")
    (refused : forall mutant, viewer.report.mutant? fragment = some mutant ->
      viewer.filters.passes mutant = true -> ¬ viewer.report.Lists fragment)
    (unnamed : ∀ location ∈ viewer.report.locations, location.id ≠ fragment) :
    viewer.named? fragment = none := by
  have unlocated := (coherent.location?_eq_none_iff fragment).mpr unnamed
  unfold named?
  rw [if_neg nonempty]
  cases known : viewer.report.mutant? fragment with
  | none => simp [unlocated]
  | some mutant =>
      cases passes : viewer.filters.passes mutant with
      | false => simp [passes]
      | true =>
          have unlisted := refused mutant known passes
          have unowned : viewer.report.owner? fragment = none := by
            rw [← Option.not_isSome_iff_eq_none, Report.owner?_isSome_iff]
            exact unlisted
          simp [passes, unowned]

theorem named?_of_not_names (coherent : viewer.report.Coherent) (nonempty : fragment ≠ "")
    (unnamed : ¬ viewer.report.Names fragment) : viewer.named? fragment = none := by
  have unlisted : ¬ viewer.report.Lists fragment := fun listed => unnamed ⟨nonempty, .inl listed⟩
  have unowned : viewer.report.owner? fragment = none := by
    rw [← Option.not_isSome_iff_eq_none, Report.owner?_isSome_iff]
    exact unlisted
  unfold named?
  rw [if_neg nonempty]
  cases known : viewer.report.mutant? fragment with
  | some mutant => simp [unowned]
  | none =>
      have unlocated : viewer.report.location? fragment = none := by
        rw [coherent.location?_eq_none_iff]
        intro location member same
        exact unnamed ⟨nonempty, .inr ⟨known, location, member, same⟩⟩
      simp [unlocated]

/-- Without filters, what a fragment names can be had: the mutant of that id, or no
mutant in the location of that id. -/
theorem named?_of_names (coherent : viewer.report.Coherent) (all : viewer.filters = .none)
    (names : viewer.report.Names fragment) :
    ∃ asked, viewer.named? fragment = some asked ∧
      (asked.mutant.map Mutant.id = some fragment ∨
        asked.mutant = none ∧ asked.location.map Location.id = some fragment) := by
  rcases names with ⟨nonempty, listed | ⟨unknown, location, member, rfl⟩⟩
  · rcases named?_of_lists coherent all nonempty listed with ⟨mutant, owner, known, -, named⟩
    exact ⟨_, named, .inl (congrArg some (coherent.mutant_id known))⟩
  · exact ⟨_, named?_of_known coherent member nonempty unknown, .inr ⟨rfl, rfl⟩⟩

theorem Consistent.named?_empty (consistent : viewer.Consistent) :
    ((viewer.named? "").getD viewer.selection).location = viewer.selection.location ∧
      ((viewer.named? "").getD viewer.selection).mutant = none := by
  cases located : viewer.selection.location with
  | some location => simp [named?, located]
  | none => simp [named?, located, consistent.mutant_eq_none located]

/-- What the fragment asks for is there already if the fragment stands for the
selection. -/
theorem Consistent.selection_of_named? (consistent : viewer.Consistent)
    (coherent : viewer.report.Coherent) (addressable : viewer.report.Addressable)
    (once : viewer.report.ListsOnce) (matched : viewer.report.Matches fragment viewer.selection)
    {asked : Selection} (named : viewer.named? fragment = some asked) :
    asked = viewer.selection := by
  have reassemble : forall location mutant, viewer.selection.location = location ->
      viewer.selection.mutant = mutant ->
      ⟨location, mutant, viewer.selection.shows⟩ = viewer.selection := by
    intro location mutant located active
    rw [← located, ← active]
  unfold named? at named
  split at named
  · next empty =>
      rcases Option.map_eq_some_iff.mp named with ⟨location, located, rfl⟩
      subst empty
      exact reassemble _ _ located
        (addressable.mutant_eq_none_of_matches_empty coherent matched)
  · split at named
    · next mutant known =>
        split at named
        · rcases Option.map_eq_some_iff.mp named with ⟨location, owned, rfl⟩
          rcases coherent.owner?_spec owned with ⟨member, listed⟩
          have active := (matched.mutant_iff mutant).mpr ⟨known, location, member, listed⟩
          rcases consistent.mutant_listed active with ⟨other, located, otherLists⟩
          rw [coherent.mutant_id known] at otherLists
          have same := once.location_eq (consistent.location_mem located) member otherLists listed
          exact reassemble _ _ (same ▸ located) active
        · cases named
    · rcases Option.map_eq_some_iff.mp named with ⟨location, found, rfl⟩
      rcases matched.location found with ⟨located, cleared⟩
      exact reassemble _ _ located cleared

end Viewer

namespace SourceView

variable {report : Report} {view : SourceView}

/-- Whether it is followed, refused or ignored, a fragment leads to what it asks
for, and to the selection as it was if that cannot be had. -/
theorem InStep.selection_follow (coherent : report.Coherent) (addressable : report.Addressable)
    (once : report.ListsOnce) (inStep : InStep report view) (raw : Option String) :
    (view.follow raw).selection =
      (view.viewer.named? (Fragment.ofOption raw)).getD view.selection := by
  rcases inStep.matched with ⟨link, linked, matched⟩
  by_cases same : Fragment.ofOption raw = link.followed
  · rw [follow_of_followed linked same]
    cases named : view.viewer.named? (Fragment.ofOption raw) with
    | none => rfl
    | some asked =>
        have reportEq := inStep.report_eq
        subst reportEq
        exact (inStep.consistent.selection_of_named? coherent addressable once
          (same ▸ matched) named).symm
  · rw [follow_of_ne_followed linked same, selection, (view.followFragment_spec _).1,
      Viewer.selection_withSelection]

/-- The step delivers the fragment to the link, by itself or because the bar has
changed to it. -/
inductive Delivers (view : SourceView) : Step -> Option String -> Prop where
  | direct (raw : Option String) : Delivers view (.address raw) raw
  | heard (use : History.Step) (link : Link) (linked : view.link = some link)
      (changed : (link.history.step use).changed = true) :
      Delivers view (.bar use) (some (link.history.step use).history.fragment)

theorem Delivers.exists_follow {step : Step} {raw : Option String}
    (delivers : view.Delivers step raw) :
    ∃ outcome heard, view.step step = .ok outcome ∧
      outcome.view.viewer = (heard.follow raw).viewer ∧
      (heard = view ∨ ∃ history, heard = view.withHistory history) := by
  cases delivers with
  | direct => exact ⟨_, view, rfl, rfl, .inl rfl⟩
  | heard use link linked changed =>
      have used : (view.useBar use).1 = view.hear (link.history.step use).history := by
        simp [useBar, linked, changed]
      refine ⟨_, view.withHistory (link.history.step use).history, rfl, ?_, .inr ⟨_, rfl⟩⟩
      change (view.useBar use).1.viewer = _
      rw [used]
      rfl

theorem Delivers.exists_step (coherent : report.Coherent) (addressable : report.Addressable)
    (once : report.ListsOnce) (inStep : InStep report view) {step : Step} {raw : Option String}
    (delivers : view.Delivers step raw) :
    ∃ outcome, view.step step = .ok outcome ∧ outcome.view.selection =
      (view.viewer.named? (Fragment.ofOption raw)).getD view.selection := by
  rcases delivers.exists_follow with ⟨outcome, heard, taken, reached, same⟩
  refine ⟨outcome, taken, (congrArg Viewer.selection reached).trans ?_⟩
  rcases same with rfl | ⟨history, rfl⟩
  · exact inStep.selection_follow coherent addressable once raw
  · exact (inStep.withHistory history).selection_follow coherent addressable once raw

/-- Over a report from a dataset with ids that are fit for the bar and mutants
that are listed once, after any run from loading without another restoration, a
delivered fragment is always obeyed.  A listed mutant that passes becomes active
in its location; a location becomes active without a mutant; the empty fragment
clears the mutant; and any other fragment changes nothing. -/
theorem delivered_fragment_obeyed {data : Json} {report : Report} {notes : List Note}
    (accepted : Report.ofJson data = .ok (report, notes)) (addressable : report.Addressable)
    (once : report.ListsOnce) (settings : SourceSettings) (bar : Option History)
    (steps : List Step) (settled : ∀ step ∈ steps, step ≠ .restore) :
    ∃ view, (load report settings bar).run steps = .ok view ∧
      forall step raw, view.Delivers step raw -> ∃ outcome, view.step step = .ok outcome ∧
        (forall mutant, report.mutant? (Fragment.ofOption raw) = some mutant ->
          view.viewer.filters.passes mutant = true ->
          ∀ location ∈ report.locations, Fragment.ofOption raw ∈ location.mutantIds ->
            outcome.view.selection.location = some location ∧
              outcome.view.selection.mutant = some mutant) ∧
        (∀ location ∈ report.locations, location.id = Fragment.ofOption raw ->
          outcome.view.selection.location = some location ∧
            outcome.view.selection.mutant = none) ∧
        (Fragment.ofOption raw = "" ->
          outcome.view.selection.location = view.selection.location ∧
            outcome.view.selection.mutant = none) ∧
        ((forall mutant, report.mutant? (Fragment.ofOption raw) = some mutant ->
            view.viewer.filters.passes mutant = true ->
            ¬ report.Lists (Fragment.ofOption raw)) ->
          (∀ location ∈ report.locations, location.id ≠ Fragment.ofOption raw) ->
          Fragment.ofOption raw ≠ "" -> outcome.view.selection = view.selection) := by
  have coherent := Report.coherent_of_ofJson accepted
  rcases exists_run_inStep coherent addressable settings bar steps settled
    with ⟨view, ran, inStep⟩
  have reportEq := inStep.report_eq
  subst reportEq
  refine ⟨view, ran, ?_⟩
  intro step raw delivers
  rcases delivers.exists_step coherent addressable once inStep with ⟨outcome, taken, reached⟩
  generalize Fragment.ofOption raw = fragment at reached ⊢
  refine ⟨outcome, taken, ?_, ?_, ?_, ?_⟩
  · intro mutant known passes location member listed
    rw [reached, Viewer.named?_of_listed coherent addressable once known passes member listed]
    exact ⟨rfl, rfl⟩
  · intro location member named
    rw [reached, ← named, Viewer.named?_of_location coherent addressable member]
    exact ⟨rfl, rfl⟩
  · intro empty
    rw [reached, empty]
    exact inStep.consistent.named?_empty
  · intro refused unnamed nonempty
    rw [reached, Viewer.named?_eq_none coherent nonempty refused unnamed]
    rfl

theorem sample_listsOnce : Report.sample.ListsOnce := by
  unfold Report.ListsOnce
  decide +kernel

/-- On the small report: going back to a fragment that was refused before is
obeyed once the filter lets its mutant pass again. -/
theorem delivered_fragment_on_sample :
    Report.ofJson Report.sampleData = .ok (Report.sample, []) ∧ Report.sample.Addressable ∧
      Report.sample.ListsOnce ∧
      ∃ view outcome, (load Report.sample .standard none).run
          [.switch (.status "killed"), .bar (.write (some "M2")), .goTo "L3" false,
            .switch (.status "killed")] = .ok view ∧
        view.step (.bar .back) = .ok outcome ∧
        outcome.view.selection.location = some ⟨"L1", ["M1", "M2"]⟩ ∧
        outcome.view.selection.mutant = some (Report.sampleMutant "M2" "killed" "aor") := by
  refine ⟨Report.sample_accepted, Report.sample_addressable, sample_listsOnce, ?_⟩
  rcases delivered_fragment_obeyed Report.sample_accepted Report.sample_addressable
    sample_listsOnce .standard none
    [.switch (.status "killed"), .bar (.write (some "M2")), .goTo "L3" false,
      .switch (.status "killed")] (by simp) with ⟨view, ran, obeyed⟩
  have reached : ((load Report.sample .standard none).run
      [.switch (.status "killed"), .bar (.write (some "M2")), .goTo "L3" false,
        .switch (.status "killed")]).toOption.map
      (fun view => (view.link.map fun link =>
          ((link.history.step .back).changed, (link.history.step .back).history.fragment),
        view.viewer.filters.passes (Report.sampleMutant "M2" "killed" "aor"))) =
      some (some (true, "M2"), true) := by
    decide +kernel
  rw [ran] at reached
  simp only [Except.toOption, Option.map_some, Option.some.injEq, Prod.mk.injEq] at reached
  rcases reached with ⟨bar, passes⟩
  rcases Option.map_eq_some_iff.mp bar with ⟨link, linked, shown⟩
  rcases Prod.mk.inj shown with ⟨changed, fragment⟩
  rcases obeyed _ _ (.heard .back link linked changed) with ⟨outcome, taken, selected, -⟩
  rw [fragment] at selected
  rcases selected _ (by decide +kernel) passes ⟨"L1", ["M1", "M2"]⟩ (by simp [Report.sample])
    (by decide +kernel) with ⟨located, active⟩
  exact ⟨view, outcome, ran, taken, located, active⟩

end SourceView

/-! ## Opening a page with a fragment -/

namespace SourceView

variable {report : Report}

/-- What opening a page comes to, by what is looked up: the selection, and whether the fragment
counts as followed. -/
theorem load_ofFragment (report : Report) (settings : SourceSettings) {raw fragment : String}
    (kept : Fragment.normalize (Fragment.normalize raw) = fragment) {asked : Option Selection}
    (restored : (Viewer.ofReport report settings).started.restored? fragment = asked) :
    (load report settings (some (.ofFragment raw))).selection =
        asked.getD (Viewer.ofReport report settings).started.selection ∧
      (load report settings (some (.ofFragment raw))).link = some ⟨.ofFragment raw,
        if asked.isSome then fragment else Fragment.normalize raw⟩ := by
  subst restored
  rcases load_spec report settings
    (rfl : (some (History.ofFragment raw)).getD (.ofFragment "") = _) kept with ⟨viewerEq, linkEq⟩
  refine ⟨congrArg Viewer.selection viewerEq, linkEq.trans ?_⟩
  split <;> rfl

section

variable (coherent : report.Coherent) (settings : SourceSettings) {raw fragment : String}
  (kept : Fragment.normalize (Fragment.normalize raw) = fragment)

include coherent kept

/-- A fragment that asks for something opens the page with that, and counts as followed. -/
theorem load_of_named (nonempty : fragment ≠ "") {location : Option Location}
    {mutant : Option Mutant} (named : (Viewer.ofReport report settings).started.named? fragment =
      some ⟨location, mutant, (Viewer.ofReport report settings).started.selection.shows⟩) :
    (load report settings (some (.ofFragment raw))).selection = ⟨location, mutant, true⟩ ∧
      (load report settings (some (.ofFragment raw))).link =
        some ⟨.ofFragment raw, fragment⟩ := by
  rw [Viewer.started_ofReport coherent] at named
  exact load_ofFragment report settings kept ((if_neg nonempty).trans named)

theorem load_of_lists (nonempty : fragment ≠ "") (listed : report.Lists fragment) :
    ∃ mutant location, report.mutant? fragment = some mutant ∧
      (report.locations.find? fun location => location.mutantIds.contains fragment) =
        some location ∧
      (load report settings (some (.ofFragment raw))).selection =
        ⟨some location, some mutant, true⟩ ∧
      (load report settings (some (.ofFragment raw))).link =
        some ⟨.ofFragment raw, fragment⟩ := by
  have startedCoherent : (Viewer.ofReport report settings).started.report.Coherent := coherent
  rcases Viewer.named?_of_lists startedCoherent rfl nonempty listed
    with ⟨mutant, location, known, owned, named⟩
  have first := (coherent.lookupsAgree.owner fragment).symm.trans owned
  exact ⟨mutant, location, known, first, load_of_named coherent settings kept nonempty named⟩

theorem load_of_location (nonempty : fragment ≠ "") (unknown : report.mutant? fragment = none)
    {location : Location} (member : location ∈ report.locations) (same : location.id = fragment) :
    (load report settings (some (.ofFragment raw))).selection = ⟨some location, none, true⟩ ∧
      (load report settings (some (.ofFragment raw))).link =
        some ⟨.ofFragment raw, fragment⟩ := by
  have startedCoherent : (Viewer.ofReport report settings).started.report.Coherent := coherent
  have named := Viewer.named?_of_known startedCoherent member (same ▸ nonempty) (same ▸ unknown)
  rw [same] at named
  exact load_of_named coherent settings kept nonempty named

/-- Any other fragment leaves the page as it starts. -/
theorem load_of_not_names (unnamed : ¬ report.Names fragment) :
    (load report settings (some (.ofFragment raw))).selection =
        ⟨report.locations.head?, none, true⟩ ∧
      (load report settings (some (.ofFragment raw))).link =
        some ⟨.ofFragment raw, Fragment.normalize raw⟩ := by
  have startedCoherent : (Viewer.ofReport report settings).started.report.Coherent := coherent
  have restored : (Viewer.ofReport report settings).started.restored? fragment = none := by
    by_cases empty : fragment = ""
    · exact if_pos empty
    · exact (if_neg empty).trans (Viewer.named?_of_not_names startedCoherent empty unnamed)
  rw [← Viewer.started_ofReport coherent settings]
  exact load_ofFragment report settings kept restored

end

/-- Over a report from a dataset, whatever its ids are, open a page with any fragment; what is
looked up is the kept form of what the bar shows.  If that is not empty and the id of a listed
mutant, the mutant is active in the first location that lists it; if it is not empty, no id of a
mutant and the id of a location, that location is active without a mutant; and in both cases it
counts as followed.  In any other case the first location is active without a mutant, and what
the bar shows counts as followed.  The history of the bar has the one entry that it had. -/
theorem fragment_opens_page {data : Json} {report : Report} {notes : List Note}
    (accepted : Report.ofJson data = .ok (report, notes)) (settings : SourceSettings)
    (raw : String) :
    ∃ view link fragment, load report settings (some (.ofFragment raw)) = view ∧
      view.link = some link ∧ link.history.entries = [Fragment.normalize raw] ∧
      fragment = Fragment.normalize link.history.fragment ∧
      (fragment ≠ "" -> report.Lists fragment ->
        ∃ mutant location, report.mutant? fragment = some mutant ∧
          (report.locations.find? fun location => location.mutantIds.contains fragment) =
            some location ∧
          view.selection = ⟨some location, some mutant, true⟩ ∧ link.followed = fragment) ∧
      (fragment ≠ "" -> report.mutant? fragment = none ->
        ∀ location ∈ report.locations, location.id = fragment ->
          view.selection = ⟨some location, none, true⟩ ∧ link.followed = fragment) ∧
      (¬ report.Names fragment ->
        view.selection = ⟨report.locations.head?, none, true⟩ ∧
          link.followed = link.history.fragment) := by
  have coherent := Report.coherent_of_ofJson accepted
  generalize kept : Fragment.normalize (Fragment.normalize raw) = fragment
  rcases load_ofFragment report settings kept rfl with ⟨-, linked⟩
  refine ⟨_, _, fragment, rfl, linked, rfl, kept.symm, ?_, ?_, ?_⟩
  · intro nonempty listed
    rcases load_of_lists coherent settings kept nonempty listed
      with ⟨mutant, location, known, first, selected, remembered⟩
    exact ⟨mutant, location, known, first, selected,
      congrArg Link.followed (Option.some.inj (linked.symm.trans remembered))⟩
  · intro nonempty unknown location member same
    rcases load_of_location coherent settings kept nonempty unknown member same
      with ⟨selected, remembered⟩
    exact ⟨selected, congrArg Link.followed (Option.some.inj (linked.symm.trans remembered))⟩
  · intro unnamed
    rcases load_of_not_names coherent settings kept unnamed with ⟨selected, remembered⟩
    exact ⟨selected, congrArg Link.followed (Option.some.inj (linked.symm.trans remembered))⟩

/-- On the small report: of two marks the bar keeps one, and the id of the mutant behind it
opens the page with the mutant. -/
theorem fragment_opens_page_on_sample :
    Report.ofJson Report.sampleData = .ok (Report.sample, []) ∧
      ∃ view link, load Report.sample .standard (some (.ofFragment " ##M2 ")) = view ∧
        view.link = some link ∧ link.history.entries = ["#M2"] ∧ link.followed = "M2" ∧
        view.selection.location = some ⟨"L1", ["M1", "M2"]⟩ ∧
        view.selection.mutant.map Mutant.id = some "M2" := by
  refine ⟨Report.sample_accepted, ?_⟩
  rcases fragment_opens_page Report.sample_accepted .standard " ##M2 "
    with ⟨view, link, fragment, opened, linked, entries, lookedUp, listed, -, -⟩
  have shown : (load Report.sample .standard (some (.ofFragment " ##M2 "))).link.map
      (fun link => link.history.fragment) = some "#M2" := by
    decide +kernel
  rw [opened, linked, Option.map_some, Option.some.injEq] at shown
  have named : fragment = "M2" := by
    rw [lookedUp, shown]
    decide +kernel
  subst named
  have lists : Report.sample.Lists "M2" := ⟨⟨"L1", ["M1", "M2"]⟩, by decide +kernel, by decide⟩
  rcases listed (by decide) lists
    with ⟨mutant, location, known, first, selected, remembered⟩
  have owner : (Report.sample.locations.find? fun location =>
      location.mutantIds.contains "M2") = some ⟨"L1", ["M1", "M2"]⟩ := by
    decide +kernel
  refine ⟨view, link, opened, linked, entries, remembered, ?_, ?_⟩
  · rw [selected, ← first, owner]
  · rw [selected]
    exact congrArg some ((Report.coherent_of_ofJson Report.sample_accepted).mutant_id known)

end SourceView
end MutationViewer
