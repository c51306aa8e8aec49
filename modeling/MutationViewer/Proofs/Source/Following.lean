import MutationViewer.Proofs.Source.Moves
import MutationViewer.Source.View

/-!
# What following a fragment comes to

A fragment names a mutant, a location, or, when it is empty, the absence of a
mutant; and what it names can be had or not.  `named?` says so in one place.
The view arrives at the same selection in several steps, with commands to the
screen and announcements in between, and the theorems here show that none of
these touches the selection or the link.
-/

namespace MutationViewer

/-- The selection that a fragment asks for, unless it cannot be had. -/
def Viewer.named? (viewer : Viewer) (fragment : String) : Option Selection :=
  if fragment = "" then
    viewer.selection.location.map fun location =>
      ⟨some location, none, viewer.selection.shows⟩
  else
    match viewer.report.mutant? fragment with
    | some mutant =>
        if viewer.filters.passes mutant then
          (viewer.report.owner? fragment).map fun location =>
            ⟨some location, some mutant, viewer.selection.shows⟩
        else none
    | none =>
        (viewer.report.location? fragment).map fun location =>
          ⟨some location, none, viewer.selection.shows⟩

theorem Viewer.selection_withSelection (viewer : Viewer) (selection : Selection) :
    (viewer.withSelection selection).selection = selection := rfl

/-- The viewer in which the first location has been selected. -/
def Viewer.started (viewer : Viewer) : Viewer :=
  viewer.withSelection viewer.start.selection

/-- The selection that a fragment asks for at load time, when the empty fragment
asks for nothing. -/
def Viewer.restored? (viewer : Viewer) (fragment : String) : Option Selection :=
  if fragment = "" then none else viewer.named? fragment

theorem Viewer.named?_of_restored? {viewer : Viewer} {fragment : String} {asked : Selection}
    (restored : viewer.restored? fragment = some asked) : viewer.named? fragment = some asked := by
  unfold restored? at restored
  split at restored
  · cases restored
  · exact restored

/-- What a fragment asks for is what some move selects. -/
theorem Viewer.reaches_of_named? {viewer : Viewer} {fragment : String} {selection : Selection}
    (named : viewer.named? fragment = some selection) :
    ∃ cause, viewer.Reaches selection cause := by
  unfold named? at named
  split at named
  · rcases Option.map_eq_some_iff.mp named with ⟨location, active, rfl⟩
    exact ⟨_, .cleared location active⟩
  · split at named
    · next mutant known =>
        split at named
        · next passes =>
            rcases Option.map_eq_some_iff.mp named with ⟨location, owned, rfl⟩
            exact ⟨_, .jumped fragment location mutant known owned passes⟩
        · cases named
    · rcases Option.map_eq_some_iff.mp named with ⟨location, found, rfl⟩
      have same := Report.location?_id found
      subst same
      refine ⟨some .location, ?_⟩
      have reached : viewer.Reaches _ _ := viewer.allows_goTo location.id false
      rwa [goTo_afresh found, (goTo_told found false).1] at reached

theorem Viewer.shows_of_named? {viewer : Viewer} {fragment : String} {asked : Selection}
    (named : viewer.named? fragment = some asked) : asked.shows = viewer.selection.shows := by
  unfold named? at named
  split at named
  · rcases Option.map_eq_some_iff.mp named with ⟨location, -, rfl⟩
    rfl
  · split at named
    · split at named
      · rcases Option.map_eq_some_iff.mp named with ⟨location, -, rfl⟩
        rfl
      · cases named
    · rcases Option.map_eq_some_iff.mp named with ⟨location, -, rfl⟩
      rfl

namespace SourceView

variable (view : SourceView)

@[simp] theorem viewer_note (note : Option Note) : (view.note note).viewer = view.viewer := by
  cases note <;> rfl

@[simp] theorem link_note (note : Option Note) : (view.note note).link = view.link := by
  cases note <;> rfl

@[simp] theorem viewer_center (element : String) : (view.center element).viewer = view.viewer :=
  rfl

@[simp] theorem link_center (element : String) : (view.center element).link = view.link :=
  rfl

@[simp] theorem viewer_announce (announcement : Announcement) :
    (view.announce announcement).viewer = view.viewer := rfl

@[simp] theorem link_announce (announcement : Announcement) :
    (view.announce announcement).link = view.link := rfl

@[simp] theorem viewer_carryOut (move : Move) :
    (view.carryOut move).viewer = view.viewer.withSelection move.selection := by
  change (SourceView.note _ move.note).viewer = _
  rw [viewer_note]

@[simp] theorem link_carryOut (move : Move) : (view.carryOut move).link = view.link := by
  change (SourceView.note _ move.note).link = _
  rw [link_note]

@[simp] theorem viewer_performQuietly (move : Move) :
    (view.performQuietly move).viewer = view.viewer.withSelection move.selection := by
  unfold performQuietly
  cases move.cause <;> simp

@[simp] theorem link_performQuietly (move : Move) :
    (view.performQuietly move).link = view.link := by
  unfold performQuietly
  cases move.cause <;> simp

@[simp] theorem viewer_withFollowed (fragment : String) :
    (view.withFollowed fragment).viewer = view.viewer := rfl

@[simp] theorem viewer_withHistory (history : History) :
    (view.withHistory history).viewer = view.viewer := rfl

/-! ## Selecting what a fragment names -/

/-- A fragment that names something selects just what it asks for. -/
theorem selectNamed_spec {fragment : String} (nonempty : fragment ≠ "") :
    (view.selectNamed fragment).1.viewer =
        view.viewer.withSelection ((view.viewer.named? fragment).getD view.selection) ∧
      (view.selectNamed fragment).1.link = view.link ∧
      (view.selectNamed fragment).2 = (view.viewer.named? fragment).isSome := by
  unfold selectNamed Viewer.named?
  rw [if_neg nonempty, if_neg nonempty]
  cases known : view.viewer.report.mutant? fragment with
  | some mutant =>
      cases owned : view.viewer.report.owner? fragment with
      | none => cases passes : view.viewer.filters.passes mutant <;>
          simp [Viewer.jumpTo, known, owned, Viewer.stay, selection]
      | some location => cases passes : view.viewer.filters.passes mutant <;>
          simp [Viewer.jumpTo, known, owned, passes, Viewer.stay, selection]
  | none =>
      cases found : view.viewer.report.location? fragment with
      | none => exact ⟨rfl, rfl, rfl⟩
      | some location => simp [Viewer.goTo_afresh found]

theorem selectNamed_empty : view.selectNamed "" = (view, false) := rfl

theorem clearNamed_empty_spec :
    (view.clearNamed "").1.viewer =
        view.viewer.withSelection ((view.viewer.named? "").getD view.selection) ∧
      (view.clearNamed "").1.link = view.link ∧
      (view.clearNamed "").2 = (view.viewer.named? "").isSome := by
  have active_eq : view.selection.location = view.viewer.selection.location := rfl
  cases active : view.viewer.selection.location with
  | none =>
      simp only [clearNamed, active_eq, active, Viewer.named?]
      exact ⟨rfl, rfl, rfl⟩
  | some location =>
      simp [clearNamed, active_eq, active, Viewer.named?, Viewer.choose, Viewer.askedMutant]

theorem clearNamed_of_ne_empty {fragment : String} (nonempty : fragment ≠ "") :
    view.clearNamed fragment = (view, false) := by
  simp [clearNamed, nonempty]

theorem viewer_settle (fragment : String) (followed : Bool) :
    (view.settle fragment followed).viewer = view.viewer := by
  cases followed <;> simp [settle]

theorem link_settle (fragment : String) (followed : Bool) :
    (view.settle fragment followed).link =
      if followed then view.link.map fun link => { link with followed := fragment }
      else view.link := by
  cases followed <;> simp [settle, withFollowed]

/-- Following a fragment selects what it asks for, and then counts as followed;
a fragment that asks for nothing that can be had changes neither. -/
theorem followFragment_spec (fragment : String) :
    (view.followFragment fragment).viewer =
        view.viewer.withSelection ((view.viewer.named? fragment).getD view.selection) ∧
      (view.followFragment fragment).link =
        if (view.viewer.named? fragment).isSome then
          view.link.map fun link => { link with followed := fragment }
        else view.link := by
  by_cases nonempty : fragment = ""
  · subst nonempty
    rcases view.clearNamed_empty_spec with ⟨viewer_eq, link_eq, done_eq⟩
    change ((view.clearNamed "").1.settle "" (view.clearNamed "").2).viewer = _ ∧
      ((view.clearNamed "").1.settle "" (view.clearNamed "").2).link = _
    rw [viewer_settle, link_settle, viewer_eq, link_eq, done_eq]
    exact ⟨rfl, rfl⟩
  · rcases view.selectNamed_spec nonempty with ⟨viewer_eq, link_eq, selected_eq⟩
    unfold followFragment
    cases selected : (view.selectNamed fragment).2 with
    | true =>
        simp only [selected, if_true]
        rw [viewer_settle, link_settle, viewer_eq, link_eq, ← selected_eq, selected]
        exact ⟨rfl, rfl⟩
    | false =>
        simp only [selected, Bool.false_eq_true, if_false]
        rw [clearNamed_of_ne_empty _ nonempty, viewer_settle, link_settle, viewer_eq, link_eq,
          ← selected_eq, selected]
        exact ⟨rfl, rfl⟩

/-- Restoring starts, and then selects what the bar asks for.  That counts as
followed, and a fragment that asks for nothing that can be had changes neither. -/
theorem restore_spec {view : SourceView} {link : Link} (linked : view.link = some link)
    {fragment : String} (shown : Fragment.normalize link.history.fragment = fragment) :
    view.restore.viewer = view.viewer.started.withSelection
        ((view.viewer.started.restored? fragment).getD view.viewer.started.selection) ∧
      view.restore.link =
        some (if (view.viewer.started.restored? fragment).isSome then
          { link with followed := fragment } else link) := by
  have startedViewer := view.viewer_performQuietly view.viewer.start
  have startedLink := (view.link_performQuietly view.viewer.start).trans linked
  unfold restore
  rw [linked]
  dsimp only
  rw [shown]
  generalize view.performQuietly view.viewer.start = started at startedViewer startedLink ⊢
  change started.viewer = view.viewer.started at startedViewer
  rw [viewer_settle, link_settle]
  by_cases nonempty : fragment = ""
  · rw [nonempty, selectNamed_empty, Viewer.restored?, if_pos rfl, startedViewer, startedLink]
    exact ⟨rfl, rfl⟩
  · rcases started.selectNamed_spec nonempty with ⟨viewer_eq, link_eq, selected_eq⟩
    rw [viewer_eq, link_eq, selected_eq, selection, startedViewer, startedLink, Viewer.restored?,
      if_neg nonempty]
    cases view.viewer.started.named? fragment with
    | none => exact ⟨rfl, rfl⟩
    | some asked => exact ⟨rfl, rfl⟩

theorem follow_of_no_link {view : SourceView} (unlinked : view.link = none)
    (raw : Option String) : view.follow raw = view := by
  simp [follow, unlinked]

theorem follow_of_followed {view : SourceView} {link : Link} (linked : view.link = some link)
    {raw : Option String} (same : Fragment.ofOption raw = link.followed) :
    view.follow raw = view := by
  simp [follow, linked, same]

theorem follow_of_ne_followed {view : SourceView} {link : Link} (linked : view.link = some link)
    {raw : Option String} (other : Fragment.ofOption raw ≠ link.followed) :
    view.follow raw = view.followFragment (Fragment.ofOption raw) := by
  simp [follow, linked, other]

end SourceView
end MutationViewer
