import MutationViewer.Proofs.History.Fragment
import MutationViewer.Proofs.Source.Delivery
import MutationViewer.Proofs.Source.Runs

/-!
# Echoes of what the view writes itself

The link remembers a fragment as it has written it.  The bar shows the kept form of
the fragment and calls the link back with it, and the link takes the kept form of
that again.  So what comes back is recognised only if the two are the same text.  If
an id is not in its kept form, the echo is followed like a fragment that a reader has
typed.

A view with a link is compared here with one without, as both take the same steps.
-/

namespace MutationViewer

/-- What the link hears when it has written a fragment. -/
def Fragment.echo (written : String) : String :=
  normalize (normalize written)

theorem Fragment.echo_empty : echo "" = "" := by
  rw [echo, normalize_empty, normalize_empty]

/-- What comes back as another text is a shorter one. -/
theorem Fragment.length_echo_lt {written : String} (other : echo written ≠ written) :
    (echo written).length < written.length := by
  by_contra long
  have shorter := length_normalize_le (normalize written)
  have kept : normalize written = written := normalize_eq_self_of_length_le
    ((Nat.not_lt.mp long).trans shorter)
  exact other (by rw [echo, kept, kept])

namespace Report

/-- No id that can be written comes back as a fragment that asks for something else. -/
structure EchoFree (report : Report) : Prop where
  mutant : ∀ location ∈ report.locations, ∀ id ∈ location.mutantIds,
    Fragment.echo id = id ∨ Fragment.echo id ≠ "" ∧ ¬ report.Names (Fragment.echo id)
  location : ∀ location ∈ report.locations,
    Fragment.echo location.id = location.id ∨ ¬ report.Names (Fragment.echo location.id)

/-- Ids that are fit for the bar come back as they are. -/
theorem Addressable.echoFree {report : Report} (addressable : report.Addressable)
    (coherent : report.Coherent) : report.EchoFree where
  mutant location member id listed := by
    rcases Option.isSome_iff_exists.mp (coherent.listed_known location member id listed)
      with ⟨mutant, known⟩
    have kept := (addressable.mutant?_kept coherent known).2
    exact .inl (by rw [Fragment.echo, kept, kept])
  location location member := by
    have kept := (addressable.location_kept location member).2
    exact .inl (by rw [Fragment.echo, kept, kept])

end Report

namespace Viewer

variable {viewer : Viewer} {fragment : String}

/-- The echo of a fragment is recognised, or it asks for nothing new. -/
def Unanswered (viewer : Viewer) (fragment : String) : Prop :=
  Fragment.echo fragment = fragment ∨
    (viewer.named? (Fragment.echo fragment)).getD viewer.selection = viewer.selection

theorem id_of_named? (coherent : viewer.report.Coherent) {fragment : String} {asked : Selection}
    (named : viewer.named? fragment = some asked) {mutant : Mutant}
    (active : asked.mutant = some mutant) : mutant.id = fragment := by
  unfold named? at named
  split at named
  · rcases Option.map_eq_some_iff.mp named with ⟨location, -, rfl⟩
    cases active
  · split at named
    · next known =>
        split at named
        · rcases Option.map_eq_some_iff.mp named with ⟨location, -, rfl⟩
          cases active
          exact coherent.mutant_id known
        · cases named
    · rcases Option.map_eq_some_iff.mp named with ⟨location, -, rfl⟩
      cases active

/-- A bar that shows this text lets a selection stand: it shows already what is written of
the selection, or what comes back is not answered. -/
def LetsStand (viewer : Viewer) (shown : String) (selection : Selection) : Prop :=
  Fragment.normalize (SourceView.fragmentOf .mutant selection) = shown ∨
    (viewer.withSelection selection).Unanswered (SourceView.fragmentOf .mutant selection)

/-- The same of a selection that was asked for as the cause says. -/
def LetsStandAs (viewer : Viewer) (cause : Cause) (shown : String) (selection : Selection) : Prop :=
  Fragment.normalize (SourceView.fragmentOf cause selection) = shown ∨
    (viewer.withSelection selection).Unanswered (SourceView.fragmentOf cause selection)

theorem Consistent.unanswered (consistent : viewer.Consistent)
    (coherent : viewer.report.Coherent) (echoFree : viewer.report.EchoFree) {cause : Cause}
    (located : cause = .location -> viewer.selection.location.isSome) :
    viewer.Unanswered (SourceView.fragmentOf cause viewer.selection) := by
  unfold SourceView.fragmentOf
  cases active : viewer.selection.mutant with
  | some mutant =>
      rcases consistent.mutant_listed active with ⟨location, place, listed⟩
      rcases echoFree.mutant location (consistent.location_mem place) mutant.id listed
        with same | ⟨nonempty, unnamed⟩
      · exact .inl same
      · right
        rw [named?_of_not_names coherent nonempty unnamed]
        rfl
  | none =>
      cases cause with
      | mutant =>
          change viewer.Unanswered ""
          exact .inl Fragment.echo_empty
      | location =>
          -- An empty echo clears the mutant, and here there is none to be cleared.
          rcases Option.isSome_iff_exists.mp (located rfl) with ⟨location, place⟩
          rw [place]
          change viewer.Unanswered location.id
          rcases echoFree.location location (consistent.location_mem place) with same | unnamed
          · exact .inl same
          · right
            by_cases empty : Fragment.echo location.id = ""
            · rw [empty, named?, if_pos rfl, place, Option.map_some, Option.getD_some, ← place,
                ← active]
            · rw [named?_of_not_names coherent empty unnamed]
              rfl

/-- If the id of a listed mutant is written without an answer, nothing is named by
its echo. -/
theorem Unanswered.mutant (coherent : viewer.report.Coherent) (all : viewer.filters = .none)
    (consistent : viewer.Consistent) {mutant : Mutant}
    (active : viewer.selection.mutant = some mutant) (unanswered : viewer.Unanswered mutant.id) :
    Fragment.echo mutant.id = mutant.id ∨
      Fragment.echo mutant.id ≠ "" ∧ ¬ viewer.report.Names (Fragment.echo mutant.id) := by
  by_cases same : Fragment.echo mutant.id = mutant.id
  · exact .inl same
  · have unchanged := unanswered.resolve_left same
    refine .inr ⟨?_, ?_⟩
    · intro empty
      rcases consistent.mutant_listed active with ⟨location, located, -⟩
      have cleared := congrArg Selection.mutant unchanged
      simp [empty, named?, located, active] at cleared
    · intro names
      rcases named?_of_names coherent all names with ⟨asked, named, answer⟩
      rw [named, Option.getD_some] at unchanged
      rw [unchanged, active] at answer
      rcases answer with other | ⟨cleared, -⟩
      · exact same (Option.some.inj other).symm
      · cases cleared

/-- The same holds of the id of a location that is active alone. -/
theorem Unanswered.location (coherent : viewer.report.Coherent) (all : viewer.filters = .none)
    {location : Location} (located : viewer.selection.location = some location)
    (cleared : viewer.selection.mutant = none) (unanswered : viewer.Unanswered location.id) :
    Fragment.echo location.id = location.id ∨
      ¬ viewer.report.Names (Fragment.echo location.id) := by
  by_cases same : Fragment.echo location.id = location.id
  · exact .inl same
  · have unchanged := unanswered.resolve_left same
    right
    intro names
    rcases named?_of_names coherent all names with ⟨asked, named, answer⟩
    rw [named, Option.getD_some] at unchanged
    rw [unchanged, cleared, located] at answer
    rcases answer with active | ⟨-, other⟩
    · cases active
    · exact same (Option.some.inj other).symm

end Viewer

namespace SourceView

section

variable (view : SourceView)

@[simp] theorem keys_note (note : Option Note) : (view.note note).keys = view.keys := by
  cases note <;> rfl

@[simp] theorem keys_carryOut (move : Move) : (view.carryOut move).keys = view.keys := by
  change (SourceView.note _ move.note).keys = _
  rw [keys_note]

@[simp] theorem keys_performQuietly (move : Move) :
    (view.performQuietly move).keys = view.keys := by
  unfold performQuietly
  cases move.cause with
  | none => exact view.keys_carryOut move
  | some cause => exact view.keys_carryOut move

theorem keys_selectNamed (fragment : String) :
    (view.selectNamed fragment).1.keys = view.keys := by
  unfold selectNamed
  split
  · rfl
  · split
    · dsimp only
      split
      · exact view.keys_performQuietly _
      · exact view.keys_performQuietly _
    · exact view.keys_performQuietly _
    · rfl

theorem keys_clearNamed (fragment : String) : (view.clearNamed fragment).1.keys = view.keys := by
  unfold clearNamed
  split
  · exact view.keys_performQuietly _
  · rfl

@[simp] theorem keys_settle (fragment : String) (followed : Bool) :
    (view.settle fragment followed).keys = view.keys := by
  cases followed <;> simp [settle, withFollowed]

theorem keys_followFragment (fragment : String) :
    (view.followFragment fragment).keys = view.keys := by
  unfold followFragment
  dsimp only
  split
  · rw [keys_settle, keys_selectNamed]
  · rw [keys_settle, keys_clearNamed, keys_selectNamed]

theorem keys_follow (raw : Option String) : (view.follow raw).keys = view.keys := by
  unfold follow
  split
  · rfl
  · dsimp only
    split
    · rfl
    · exact view.keys_followFragment _

theorem keys_lead (cause : Cause) : (view.lead cause).keys = view.keys := by
  unfold lead
  split
  · rfl
  · dsimp only
    split
    · rfl
    · exact keys_follow _ _

theorem keys_centerFrom (before : Option Location) :
    (view.centerFrom before).keys = view.keys := by
  unfold centerFrom
  split
  · rfl
  · split <;> rfl

theorem keys_perform (move : Move) : (view.perform move).keys = view.keys := by
  refine view.perform_of_told (fun told before same => (told.keys_centerFrom before).trans same)
    (fun _ => view.keys_carryOut move) fun cause _ => ?_
  exact (keys_lead _ cause).trans (view.keys_carryOut move)

theorem link_isSome_follow (linked : view.link.isSome) (raw : Option String) :
    (view.follow raw).link.isSome := by
  rcases Option.isSome_iff_exists.mp linked with ⟨link, linked⟩
  by_cases same : Fragment.ofOption raw = link.followed
  · rw [follow_of_followed linked same, linked]
    rfl
  · rw [follow_of_ne_followed linked same, (view.followFragment_spec _).2, linked]
    split <;> rfl

theorem link_isSome_lead (linked : view.link.isSome) (cause : Cause) :
    (view.lead cause).link.isSome := by
  unfold lead
  split
  · exact linked
  · next link found =>
      dsimp only
      split
      · simp [withFollowed, found]
      · exact link_isSome_follow _ (by simp [withFollowed, withHistory, found]) _

theorem link_isSome_perform (linked : view.link.isSome) (move : Move) :
    (view.perform move).link.isSome := by
  have carried : (view.carryOut move).link.isSome := by rwa [link_carryOut]
  rw [(view.perform_frame move).2]
  cases move.cause with
  | none => exact carried
  | some cause => exact link_isSome_lead _ carried cause

end

/-! ## Answers to what is written -/

theorem fragmentOf_mutant (selection : Selection) :
    fragmentOf .mutant selection = (selection.mutant.map Mutant.id).getD "" := by
  unfold fragmentOf
  cases selection.mutant <;> rfl

/-- If the bar has not shown what is written, and what comes back is another text, it
is followed. -/
theorem viewer_lead {view : SourceView} {link : Link} (linked : view.link = some link)
    (cause : Cause) {fragment : String} (written : fragmentOf cause view.selection = fragment) :
    (view.lead cause).viewer =
      if Fragment.normalize fragment = link.history.fragment ∨ Fragment.echo fragment = fragment
      then view.viewer
      else view.viewer.withSelection
        ((view.viewer.named? (Fragment.echo fragment)).getD view.selection) := by
  unfold lead
  rw [linked]
  dsimp only
  rw [written]
  cases wrote : link.history.write? fragment with
  | none =>
      rw [if_pos (.inl ((History.write?_eq_none_iff _ _).mp wrote))]
      rfl
  | some shown =>
      have changed : Fragment.normalize fragment ≠ link.history.fragment := by
        intro same
        rw [(History.write?_eq_none_iff _ _).mpr same] at wrote
        cases wrote
      have relinked : ((view.withFollowed fragment).withHistory shown).link =
          some ⟨shown, fragment⟩ := by
        simp [withFollowed, withHistory, linked]
      have heard : Fragment.ofOption (some shown.fragment) = Fragment.echo fragment := by
        rw [Fragment.ofOption_some, History.fragment_of_write? wrote, Fragment.echo]
      by_cases same : Fragment.echo fragment = fragment
      · rw [if_pos (.inr same)]
        have ignored := follow_of_followed relinked (heard.trans same)
        simp only [hear, ignored]
        rfl
      · rw [if_neg (by simp [changed, same])]
        have followed := follow_of_ne_followed relinked (heard ▸ same)
        simp only [hear, followed, heard]
        rw [(followFragment_spec _ _).1]
        rfl

/-- What is selected once the link has heard of a move. -/
theorem viewer_perform_of_link {view : SourceView} {link : Link} (linked : view.link = some link)
    {move : Move} {cause : Cause} (spoken : move.cause = some cause) {fragment : String}
    (written : fragmentOf cause move.selection = fragment) :
    (view.perform move).viewer =
      if Fragment.normalize fragment = link.history.fragment ∨ Fragment.echo fragment = fragment
      then view.viewer.withSelection move.selection
      else view.viewer.withSelection
        (((view.viewer.withSelection move.selection).named? (Fragment.echo fragment)).getD
          move.selection) := by
  have carried := view.viewer_carryOut move
  have selected : (view.carryOut move).selection = move.selection := by
    rw [selection, carried]
    rfl
  rw [(view.perform_frame move).1, spoken]
  dsimp only
  rw [viewer_lead ((view.link_carryOut move).trans linked) cause (selected.symm ▸ written),
    carried, selected]
  rfl

/-- Carrying out a move that is told changes nothing in the viewer but the selection. -/
theorem viewer_perform_of_cause (view : SourceView) {move : Move} {cause : Cause}
    (spoken : move.cause = some cause) :
    (view.perform move).viewer = view.viewer.withSelection (view.perform move).selection := by
  have moved : ∃ selection, (view.perform move).viewer = view.viewer.withSelection selection := by
    cases linked : view.link with
    | none => exact ⟨_, viewer_perform_of_no_link linked move⟩
    | some link =>
        rw [viewer_perform_of_link linked spoken rfl]
        split <;> exact ⟨_, rfl⟩
  rcases moved with ⟨selection, moved⟩
  rw [SourceView.selection, moved]
  rfl

/-- It neither shows nor hides replacements, whatever the link answers. -/
theorem shows_perform (view : SourceView) {move : Move} {cause : Cause}
    (spoken : move.cause = some cause) :
    (view.perform move).selection.shows = move.selection.shows := by
  cases linked : view.link with
  | none => rw [selection, viewer_perform_of_no_link linked, Viewer.selection_withSelection]
  | some link =>
      rw [selection, viewer_perform_of_link linked spoken rfl]
      split
      · rfl
      · cases named : (view.viewer.withSelection move.selection).named?
            (Fragment.echo (fragmentOf cause move.selection)) with
        | none => rfl
        | some asked => exact Viewer.shows_of_named? named

def shown (view : SourceView) : Option String :=
  view.link.map fun link => link.history.fragment

@[simp] theorem shown_follow (view : SourceView) (raw : Option String) :
    (view.follow raw).shown = view.shown := by
  cases linked : view.link with
  | none => rw [follow_of_no_link linked]
  | some link =>
      by_cases same : Fragment.ofOption raw = link.followed
      · rw [follow_of_followed linked same]
      · rw [follow_of_ne_followed linked same, shown, (view.followFragment_spec _).2, shown, linked]
        split <;> rfl

theorem shown_perform (view : SourceView) {move : Move} {cause : Cause}
    (spoken : move.cause = some cause) :
    (view.perform move).shown =
      view.shown.map fun _ => Fragment.normalize (fragmentOf cause move.selection) := by
  have selected : (view.carryOut move).selection = move.selection := by
    rw [selection, view.viewer_carryOut move]
    rfl
  rw [shown, (view.perform_frame move).2, spoken]
  dsimp only
  rw [← shown, lead, link_carryOut]
  cases linked : view.link with
  | none => simp [shown, linked]
  | some link =>
      dsimp only
      rw [selected]
      cases wrote : link.history.write? (fragmentOf cause move.selection) with
      | none =>
          have same := (History.write?_eq_none_iff _ _).mp wrote
          simp [shown, withFollowed, linked, same]
      | some written =>
          have fresh := History.fragment_of_write? wrote
          change ((((view.carryOut move).withFollowed _).withHistory written).follow _).shown = _
          rw [shown_follow]
          simp [shown, withFollowed, withHistory, linked, fresh]

/-- A move that is told ends in its own selection just if the bar lets that stand. -/
theorem selection_perform_iff {view : SourceView} {move : Move} {cause : Cause}
    (spoken : move.cause = some cause) :
    (view.perform move).selection = move.selection ↔
      ∀ shown ∈ view.shown, view.viewer.LetsStandAs cause shown move.selection := by
  cases linked : view.link with
  | none =>
      have unheard : view.shown = none := by rw [shown, linked, Option.map_none]
      rw [selection, viewer_perform_of_no_link linked, Viewer.selection_withSelection, unheard]
      simp
  | some link =>
      have shown : view.shown = some link.history.fragment := by
        rw [SourceView.shown, linked, Option.map_some]
      simp only [shown, Option.mem_some_iff, forall_eq', Viewer.LetsStandAs, Viewer.Unanswered]
      rw [selection, viewer_perform_of_link linked spoken rfl]
      split
      · next unheard => exact ⟨fun _ => unheard.imp_right fun same => .inl same, fun _ => rfl⟩
      · next heard =>
          rw [not_or] at heard
          simp only [Viewer.selection_withSelection, heard.1, heard.2, false_or]

section

variable {view : SourceView} {move : Move} (spoken : move.cause = some .mutant)

include spoken

theorem viewer_perform_of_letsStand (letsStand : ∀ shown ∈ view.shown,
    view.viewer.LetsStand shown move.selection) :
    (view.perform move).viewer = view.viewer.withSelection move.selection := by
  rw [view.viewer_perform_of_cause spoken, (selection_perform_iff spoken).mpr letsStand]

/-- If the bar does not let a selection stand, its mutant gives way to none or to one whose
id is shorter. -/
theorem letsStand_or_shorter (coherent : view.viewer.report.Coherent) :
    (∀ shown ∈ view.shown, view.viewer.LetsStand shown move.selection) ∨
    ∃ mutant, move.selection.mutant = some mutant ∧
      forall other, (view.perform move).selection.mutant = some other ->
        other.id.length < mutant.id.length := by
  refine Classical.or_iff_not_imp_left.mpr fun answered => ?_
  simp only [not_forall] at answered
  rcases answered with ⟨_, there, answered⟩
  rcases Option.map_eq_some_iff.mp there with ⟨link, linked, rfl⟩
  unfold Viewer.LetsStand Viewer.Unanswered at answered
  simp only [not_or] at answered
  rcases answered with ⟨unshown, echoed, redirected⟩
  cases chosen : move.selection.mutant with
  | none =>
      rw [fragmentOf_mutant, chosen] at echoed
      exact absurd Fragment.echo_empty echoed
  | some mutant =>
      have written : fragmentOf .mutant move.selection = mutant.id := by
        rw [fragmentOf_mutant, chosen]
        rfl
      rw [written] at unshown echoed redirected
      refine ⟨mutant, rfl, fun other active => ?_⟩
      rw [selection, viewer_perform_of_link linked spoken written, if_neg (not_or.mpr
        ⟨unshown, echoed⟩)] at active
      cases named : (view.viewer.withSelection move.selection).named?
          (Fragment.echo mutant.id) with
      | none =>
          rw [named] at redirected
          exact absurd rfl redirected
      | some asked =>
          rw [named] at active
          have coherentNow : (view.viewer.withSelection move.selection).report.Coherent :=
            coherent
          rw [Viewer.id_of_named? coherentNow named active]
          exact Fragment.length_echo_lt echoed

end

/-! ## A view with a link beside one without -/

/-- The two views share the viewer and the keys, and only the first has a link. -/
structure Abreast (linked alone : SourceView) : Prop where
  viewer_eq : linked.viewer = alone.viewer
  keys_eq : linked.keys = alone.keys
  linked : linked.link.isSome
  unlinked : alone.link = none

variable {linked alone : SourceView}

theorem Abreast.perform (abreast : Abreast linked alone)
    (coherent : alone.viewer.report.Coherent) (echoFree : alone.viewer.report.EchoFree)
    {move : Move} (consistent : (alone.viewer.withSelection move.selection).Consistent)
    (located : move.cause = some .location -> move.selection.location.isSome) :
    Abreast (linked.perform move) (alone.perform move) where
  viewer_eq := by
    rw [viewer_perform_of_no_link abreast.unlinked]
    cases spoken : move.cause with
    | none => rw [viewer_perform_of_no_cause _ spoken, abreast.viewer_eq]
    | some cause =>
        rcases Option.isSome_iff_exists.mp abreast.linked with ⟨link, found⟩
        have unanswered : (alone.viewer.withSelection move.selection).Unanswered
            (fragmentOf cause move.selection) :=
          consistent.unanswered coherent echoFree fun asked => located (by rw [spoken, asked])
        rw [viewer_perform_of_link found spoken rfl, abreast.viewer_eq]
        split
        · rfl
        · next answered =>
            rw [not_or] at answered
            exact congrArg (alone.viewer.withSelection ·) (unanswered.resolve_left answered.2)
  keys_eq := by rw [keys_perform, keys_perform, abreast.keys_eq]
  linked := link_isSome_perform _ abreast.linked move
  unlinked := link_perform_of_no_link abreast.unlinked move

theorem Abreast.switch (abreast : Abreast linked alone)
    (coherent : alone.viewer.report.Coherent) (echoFree : alone.viewer.report.EchoFree)
    (consistent : alone.viewer.Consistent) (switch : Filters.Switch) :
    Abreast (linked.switch switch).1 (alone.switch switch).1 := by
  have switched : Abreast { linked with viewer := linked.viewer.switched switch }
      { alone with viewer := alone.viewer.switched switch } :=
    ⟨congrArg (Viewer.switched · switch) abreast.viewer_eq, abreast.keys_eq, abreast.linked,
      abreast.unlinked⟩
  unfold SourceView.switch
  dsimp only
  rw [abreast.viewer_eq]
  rw [abreast.viewer_eq] at switched
  apply switched.perform coherent echoFree (consistent.afterSwitch switch)
  intro asked
  rcases (alone.viewer.switched switch).afterSwitch_cause switch with ⟨silent, -⟩ | spoken
  · rw [silent] at asked
    cases asked
  · rw [spoken] at asked
    cases asked

theorem Abreast.grant (abreast : Abreast linked alone)
    (coherent : alone.viewer.report.Coherent) (echoFree : alone.viewer.report.EchoFree)
    (consistent : alone.viewer.Consistent) (request : Request alone.viewer) :
    Abreast (linked.grant request).view (alone.grant request).view := by
  cases request with
  | pass answer => exact abreast
  | move move elementary answer =>
      have allowed : alone.viewer.Reaches move.selection move.cause := elementary.allows
      apply abreast.perform coherent echoFree (allowed.consistent coherent consistent)
      intro asked
      rw [asked] at allowed
      exact allowed.located_of_cause
  | switch switch => exact abreast.switch coherent echoFree consistent switch

/-- Steps that select keep the two views abreast, and neither fails. -/
theorem Abreast.exists_step (abreast : Abreast linked alone)
    (coherent : alone.viewer.report.Coherent) (echoFree : alone.viewer.report.EchoFree)
    (consistent : alone.viewer.Consistent) {step : Step} (selects : step.selects = true) :
    ∃ first second, linked.step step = .ok first ∧ alone.step step = .ok second ∧
      Abreast first.view second.view := by
  rcases exists_asks alone.viewer alone.keys selects with ⟨request, asks⟩
  have here := asks.granted linked abreast.viewer_eq abreast.keys_eq
  have there := asks.granted alone rfl rfl
  rcases SourceView.exists_step coherent consistent step with ⟨outcome, taken⟩
  cases request with
  | error fault =>
      rw [taken] at there
      cases there
  | ok request =>
      exact ⟨_, _, here, there, abreast.grant coherent echoFree consistent request⟩

theorem Abreast.exists_run (abreast : Abreast linked alone)
    (coherent : alone.viewer.report.Coherent) (echoFree : alone.viewer.report.EchoFree)
    (consistent : alone.viewer.Consistent) (steps : List Step)
    (select : ∀ step ∈ steps, step.selects = true) :
    ∃ first second, linked.run steps = .ok first ∧ alone.run steps = .ok second ∧
      Abreast first second := by
  induction steps generalizing linked alone with
  | nil => exact ⟨linked, alone, rfl, rfl, abreast⟩
  | cons step steps ih =>
      rcases abreast.exists_step coherent echoFree consistent (select step List.mem_cons_self)
        with ⟨first, second, here, there, next⟩
      have kept := keeps_of_step there
      rcases ih next (kept.report_eq ▸ coherent) (kept.report_eq ▸ echoFree)
        (kept.consistent coherent consistent)
        (fun other member => select other (List.mem_cons_of_mem _ member))
        with ⟨last, lastAlone, ran, ranAlone, final⟩
      exact ⟨last, lastAlone, by rw [run, here]; exact ran, by rw [run, there]; exact ranAlone,
        final⟩

theorem exists_normalize_ne (fragment : String) : ∃ raw, Fragment.normalize raw ≠ fragment := by
  by_cases empty : fragment = ""
  · exact ⟨"x", by rw [empty]; decide +kernel⟩
  · exact ⟨"", fun same => empty same.symm⟩

/-- If a first step comes to the same with a link and without, whatever the bar shows,
then what is written of it is not answered. -/
theorem unanswered_of_same {report : Report} {settings : SourceSettings} {keys : Keys}
    {step : Step} {move : Move} {cause : Cause}
    (taken : forall bar, (ofReport report settings keys bar).step step =
      .ok ((ofReport report settings keys bar).answerMove move))
    (spoken : move.cause = some cause)
    (same : forall raw, ∃ linked alone,
      (ofReport report settings keys (some (.ofFragment raw))).run [step] = .ok linked ∧
      (ofReport report settings keys none).run [step] = .ok alone ∧
      linked.selection = alone.selection) :
    ((Viewer.ofReport report settings).withSelection move.selection).Unanswered
      (fragmentOf cause move.selection) := by
  generalize written : fragmentOf cause move.selection = fragment
  by_cases recognised : Fragment.echo fragment = fragment
  · exact .inl recognised
  · right
    rcases exists_normalize_ne (Fragment.normalize fragment) with ⟨raw, other⟩
    rcases same raw with ⟨linked, alone, ran, ranAlone, asked⟩
    rw [run, taken] at ran ranAlone
    cases ran
    cases ranAlone
    generalize opened : ofReport report settings keys (some (.ofFragment raw)) = view at asked
    have viewerEq : view.viewer = Viewer.ofReport report settings := by rw [← opened]; rfl
    have linked : view.link = some (.ofHistory (.ofFragment raw)) := by rw [← opened]; rfl
    have unshown : ¬ (Fragment.normalize fragment =
        (Link.ofHistory (.ofFragment raw)).history.fragment ∨ Fragment.echo fragment = fragment) :=
      not_or.mpr ⟨fun same => other same.symm, recognised⟩
    have performed := viewer_perform_of_link linked spoken written
    rw [if_neg unshown, viewerEq] at performed
    have alone := viewer_perform_of_no_link
      (rfl : (ofReport report settings keys none).link = none) move
    simp only [answerMove] at asked
    rw [selection, selection, performed, alone] at asked
    simpa only [Viewer.selection_withSelection] using asked

/-- Jumping to a mutant and making a location active show what comes back of their ids. -/
theorem echoFree_of_same {report : Report} (coherent : report.Coherent)
    {settings : SourceSettings} {keys : Keys}
    (same : forall (step : Step), step.selects = true -> forall raw, ∃ linked alone,
      (ofReport report settings keys (some (.ofFragment raw))).run [step] = .ok linked ∧
      (ofReport report settings keys none).run [step] = .ok alone ∧
      linked.selection = alone.selection) : report.EchoFree where
  mutant location member id listed := by
    rcases Option.isSome_iff_exists.mp (coherent.listed_known location member id listed)
      with ⟨mutant, known⟩
    have owned := (Report.owner?_isSome_iff _ id).mpr ⟨location, member, listed⟩
    rcases Option.isSome_iff_exists.mp owned with ⟨owner, owned⟩
    rcases (Viewer.ofReport report settings).jumpTo_of_owned known owned rfl
      with ⟨selected, -, spoken⟩
    have unanswered := unanswered_of_same (fun bar => rfl) spoken (same (.jumpTo id) rfl)
    have consistent := ((Viewer.ofReport report settings).allows_jumpTo id).consistent coherent
      (consistent_ofReport report settings keys none)
    rw [selected] at unanswered consistent
    have unnamed := Viewer.Unanswered.mutant coherent rfl consistent rfl unanswered
    rwa [coherent.mutant_id known] at unnamed
  location location member := by
    have found := coherent.location?_of_mem member
    have selected : ((Viewer.ofReport report settings).goTo location.id false).selection =
        ⟨some location, none, true⟩ := Viewer.goTo_afresh found
    have spoken : ((Viewer.ofReport report settings).goTo location.id false).cause =
        some .location := (Viewer.goTo_told found false).1
    have unanswered := unanswered_of_same (fun bar => rfl) spoken
      (same (.goTo location.id false) rfl)
    rw [selected] at unanswered
    exact Viewer.Unanswered.location coherent rfl rfl rfl unanswered

/-- Over a report from a dataset, a view with a link selects the same as one without,
whatever the bar shows at first and whatever selections and filters are asked for, just
if no id comes back from the bar as another text that asks for something.  An id comes
back with its blanks and its marks taken off twice. -/
theorem own_writes_unanswered_iff {data : Json} {report : Report} {notes : List Note}
    (accepted : Report.ofJson data = .ok (report, notes)) :
    (forall (settings : SourceSettings) (keys : Keys) (raw : String) (steps : List Step),
      (∀ step ∈ steps, step.selects = true) ->
      ∃ linked alone,
        (ofReport report settings keys (some (.ofFragment raw))).run steps = .ok linked ∧
        (ofReport report settings keys none).run steps = .ok alone ∧
        linked.selection = alone.selection) ↔ report.EchoFree := by
  have coherent := Report.coherent_of_ofJson accepted
  constructor
  · intro same
    apply echoFree_of_same coherent
    intro step selects raw
    exact same .standard .standard raw [step] (by simpa using selects)
  · intro echoFree settings keys raw steps select
    have abreast : Abreast (ofReport report settings keys (some (.ofFragment raw)))
        (ofReport report settings keys none) := ⟨rfl, rfl, rfl, rfl⟩
    rcases abreast.exists_run coherent echoFree (consistent_ofReport report settings keys none)
      steps select with ⟨linked, alone, ran, ranAlone, final⟩
    exact ⟨linked, alone, ran, ranAlone, congrArg Viewer.selection final.viewer_eq⟩

/-- On the small report: the bar shows another mutant at first, and the run leaves it. -/
theorem own_writes_unanswered_on_sample :
    Report.ofJson Report.sampleData = .ok (Report.sample, []) ∧
      ∃ linked alone,
        (ofReport Report.sample .standard .standard (some (.ofFragment "M3"))).run
          [.start, .jumpTo "M2", .switch (.status "killed"), .goTo "L3" true] = .ok linked ∧
        (ofReport Report.sample .standard .standard none).run
          [.start, .jumpTo "M2", .switch (.status "killed"), .goTo "L3" true] = .ok alone ∧
        linked.selection = alone.selection := by
  have coherent := Report.coherent_of_ofJson Report.sample_accepted
  have echoFree := Report.sample_addressable.echoFree coherent
  exact ⟨Report.sample_accepted,
    (own_writes_unanswered_iff Report.sample_accepted).mpr echoFree .standard .standard "M3" _
      (by simp [Step.selects])⟩

/-- One location with two mutants, whose ids differ by a leading mark. -/
def markedData : Json :=
  .object
    [("mutants", .list [.object [("id", .text "#M1")], .object [("id", .text "M1")]]),
     ("locations", .list
        [.object [("id", .text "L1"), ("mutants", .list [.text "#M1", .text "M1"])]])]

def marked : Report where
  locations := [⟨"L1", ["#M1", "M1"]⟩]
  mutants := .ofList
    [("#M1", Report.sampleMutant "#M1" "unknown" ""),
     ("M1", Report.sampleMutant "M1" "unknown" "")]
  statusLabels := []
  kindLabels := []
  kills := .empty

/-- Choosing the mutant with the mark leads to the one without it, if there is a bar. -/
theorem marked_id_answered :
    Report.ofJson markedData = .ok (marked, []) ∧
      ∃ linked alone,
        (ofReport marked .standard .standard (some (.ofFragment ""))).run
          [.goTo "L1" false, .choose (some "#M1")] = .ok linked ∧
        (ofReport marked .standard .standard none).run
          [.goTo "L1" false, .choose (some "#M1")] = .ok alone ∧
        linked.selection.mutant.map Mutant.id = some "M1" ∧
        alone.selection.mutant.map Mutant.id = some "#M1" := by
  have accepted : Report.ofJson markedData = .ok (marked, []) := rfl
  have coherent := Report.coherent_of_ofJson accepted
  have consistent := consistent_ofReport marked .standard .standard
  rcases exists_run_keeps coherent (consistent (some (.ofFragment "")))
    [.goTo "L1" false, .choose (some "#M1")] with ⟨linked, ran, -⟩
  rcases exists_run_keeps coherent (consistent none)
    [.goTo "L1" false, .choose (some "#M1")] with ⟨alone, ranAlone, -⟩
  refine ⟨accepted, linked, alone, ran, ranAlone, ?_⟩
  have reached : (((ofReport marked .standard .standard (some (.ofFragment ""))).run
      [.goTo "L1" false, .choose (some "#M1")]).toOption.map (fun view =>
        view.selection.mutant.map Mutant.id),
      ((ofReport marked .standard .standard none).run
        [.goTo "L1" false, .choose (some "#M1")]).toOption.map (fun view =>
        view.selection.mutant.map Mutant.id)) = (some (some "M1"), some (some "#M1")) := by
    decide +kernel
  rw [ran, ranAlone] at reached
  rcases Prod.mk.inj reached with ⟨here, there⟩
  exact ⟨Option.some.inj here, Option.some.inj there⟩

end SourceView
end MutationViewer
