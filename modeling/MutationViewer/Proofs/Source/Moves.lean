import MutationViewer.Proofs.Report.Coherence
import MutationViewer.Source.Traversal

/-!
# What a move can select

However a move was asked for, it ends in one of few ways: location and mutant
stay, a location becomes active, the mutant is cleared, a candidate is chosen,
or a mutant is jumped to.  `Reaches` lists these ways with all that is known in
each, and every move is shown to be one of them.  What holds of selections is
then proved from `Reaches`, and no later proof opens a move for it again.  What
holds of a move as a whole is proved of the elementary ones, which all others
come to.

A switch of the filters is kept apart, because the selection that it meets need
not fit the filters any more.
-/

namespace MutationViewer
namespace Viewer

/-- The selections that a move can come to, and what they are announced as. -/
inductive Reaches (viewer : Viewer) : Selection -> Option Cause -> Prop where
  | kept (shows : Bool) : Reaches viewer { viewer.selection with shows } none
  | located (location : Location) (preserve : Bool)
      (known : viewer.report.location? location.id = some location) :
      Reaches viewer
        ⟨some location,
         viewer.selection.mutant.filter fun mutant => preserve && viewer.fits location mutant,
         viewer.selection.shows⟩ (some .location)
  | cleared (location : Location) (active : viewer.selection.location = some location) :
      Reaches viewer ⟨some location, none, viewer.selection.shows⟩ (some .mutant)
  | chosen (location : Location) (mutant : Mutant)
      (active : viewer.selection.location = some location)
      (candidate : mutant ∈ viewer.filters.candidatesAt viewer.report location) :
      Reaches viewer ⟨some location, some mutant, viewer.selection.shows⟩ (some .mutant)
  | jumped (id : String) (location : Location) (mutant : Mutant)
      (known : viewer.report.mutant? id = some mutant)
      (owned : viewer.report.owner? id = some location)
      (passes : viewer.filters.passes mutant = true) :
      Reaches viewer ⟨some location, some mutant, viewer.selection.shows⟩ (some .mutant)

/-- Whether a move ends in one of these ways.  Its answer and whether it brings
the location into view do not matter. -/
def Allows (viewer : Viewer) (move : Move) : Prop :=
  viewer.Reaches move.selection move.cause

variable (viewer : Viewer)

theorem allows_stay (answer : Bool) (note : Option Note) :
    viewer.Allows (viewer.stay answer note) :=
  .kept viewer.selection.shows

theorem allows_goTo (id : String) (preserve : Bool) :
    viewer.Allows (viewer.goTo id preserve) := by
  unfold goTo
  split
  · exact viewer.allows_stay _ _
  · next location found =>
      have same := Report.location?_id found
      subst same
      exact .located location preserve found

theorem goTo_afresh {viewer : Viewer} {id : String} {location : Location}
    (known : viewer.report.location? id = some location) :
    (viewer.goTo id false).selection = ⟨some location, none, viewer.selection.shows⟩ := by
  have cleared : (viewer.selection.mutant.filter fun mutant =>
      false && viewer.fits location mutant) = none := by
    cases viewer.selection.mutant <;> rfl
  rw [goTo_of_known known, cleared]

theorem goTo_told {viewer : Viewer} {id : String} {location : Location}
    (known : viewer.report.location? id = some location) (preserve : Bool) :
    (viewer.goTo id preserve).cause = some .location ∧
      (viewer.goTo id preserve).answer = true := by
  simp [goTo, known]

theorem allows_choose (entry : Option String) : viewer.Allows (viewer.choose entry) := by
  unfold Allows choose
  split
  · exact viewer.allows_stay _ _
  · next location active =>
      dsimp only
      cases chosen : (askedMutant entry).bind viewer.candidate? with
      | none => exact .cleared location active
      | some mutant =>
          rcases Option.bind_eq_some_iff.mp chosen with ⟨id, -, found⟩
          have member := List.mem_of_find?_eq_some found
          rw [candidates, active] at member
          exact .chosen location mutant active member

theorem allows_jumpTo (id : String) : viewer.Allows (viewer.jumpTo id) := by
  unfold jumpTo
  split
  · next mutant location known owned =>
      split
      · next passes => exact .jumped id location mutant known owned passes
      · exact viewer.allows_stay _ _
  · exact viewer.allows_stay _ _

theorem jumpTo_of_owned {id : String} {mutant : Mutant} {location : Location}
    (known : viewer.report.mutant? id = some mutant)
    (owned : viewer.report.owner? id = some location)
    (passes : viewer.filters.passes mutant = true) :
    (viewer.jumpTo id).selection = ⟨some location, some mutant, viewer.selection.shows⟩ ∧
      (viewer.jumpTo id).answer = true ∧ (viewer.jumpTo id).cause = some .mutant := by
  simp [jumpTo, known, owned, passes]

theorem allows_flip : viewer.Allows viewer.flip :=
  .kept (!viewer.selection.shows)

/-- The moves that all others come to.  Another move may differ from them in its answer and in
whether it brings the location into view. -/
inductive Elementary (viewer : Viewer) : Move -> Prop where
  | stay (answer : Bool) (note : Option Note) : Elementary viewer (viewer.stay answer note)
  | goTo (id : String) (preserve answer centers : Bool) :
      Elementary viewer { viewer.goTo id preserve with answer, centers }
  | choose (entry : Option String) (answer : Bool) :
      Elementary viewer { viewer.choose entry with answer }
  | jumpTo (id : String) (centers : Bool) : Elementary viewer { viewer.jumpTo id with centers }
  | flip : Elementary viewer viewer.flip

theorem Elementary.allows {viewer : Viewer} {move : Move}
    (elementary : viewer.Elementary move) : viewer.Allows move := by
  cases elementary with
  | stay answer note => exact viewer.allows_stay answer note
  | goTo id preserve => exact viewer.allows_goTo id preserve
  | choose entry => exact viewer.allows_choose entry
  | jumpTo id => exact viewer.allows_jumpTo id
  | flip => exact viewer.allows_flip

theorem elementary_goTo (id : String) (preserve : Bool) :
    viewer.Elementary (viewer.goTo id preserve) :=
  .goTo id preserve _ _

theorem elementary_choose (entry : Option String) : viewer.Elementary (viewer.choose entry) :=
  .choose entry _

theorem elementary_jumpTo (id : String) : viewer.Elementary (viewer.jumpTo id) :=
  .jumpTo id _

theorem elementary_start : viewer.Elementary viewer.start := by
  unfold start
  split
  · exact .stay _ _
  · exact .goTo _ _ _ _

theorem elementary_walkLocations (amount : Option Direction) :
    viewer.Elementary (viewer.walkLocations amount) := by
  cases amount with
  | none => exact .stay _ _
  | some direction =>
      change viewer.Elementary (viewer.stepLocation direction)
      unfold stepLocation
      split
      · exact .stay _ _
      · exact .goTo _ _ _ _

theorem elementary_goOn (direction : Direction) (center : Bool) :
    viewer.Elementary (viewer.goOn direction center) := by
  unfold goOn
  split
  · exact .stay _ _
  · exact .jumpTo _ _

theorem elementary_chooseEntry (entry : Nat) : viewer.Elementary (viewer.chooseEntry entry) :=
  .choose _ _

theorem elementary_stepEntry (direction : Direction) (center : Bool) (entry : Nat) :
    viewer.Elementary (viewer.stepEntry direction center entry) := by
  rcases viewer.stepEntry_cases direction center entry with ⟨place, -, chosen⟩ | stayed | gone
  · exact chosen ▸ viewer.elementary_chooseEntry place
  · exact stayed ▸ .stay _ _
  · exact gone ▸ viewer.elementary_goOn direction center

theorem elementary_of_walkMutants {amount : Option Direction} {center : Bool} {move : Move}
    (walked : viewer.walkMutants amount center = .ok move) : viewer.Elementary move := by
  unfold walkMutants at walked
  split at walked
  · next direction _ =>
      cases entry : viewer.activeEntry with
      | error fault =>
          rw [entry] at walked
          cases walked
      | ok number =>
          rw [entry] at walked
          cases walked
          exact viewer.elementary_stepEntry direction center number
  · cases walked
    exact .stay _ _

theorem allows_start : viewer.Allows viewer.start :=
  viewer.elementary_start.allows

variable {viewer}

/-! ## Consistent selections -/

/-- The selection fits the report and the filters: the active location is one of
the document's, and the active mutant is the report's own, is listed by the
active location and passes. -/
structure Consistent (viewer : Viewer) : Prop where
  location_mem : forall {location}, viewer.selection.location = some location ->
    location ∈ viewer.report.locations
  mutant_listed : forall {mutant}, viewer.selection.mutant = some mutant ->
    ∃ location, viewer.selection.location = some location ∧ mutant.id ∈ location.mutantIds
  mutant_known : forall {mutant}, viewer.selection.mutant = some mutant ->
    viewer.report.mutant? mutant.id = some mutant
  mutant_passes : forall {mutant}, viewer.selection.mutant = some mutant ->
    viewer.filters.passes mutant = true

theorem consistent_of_no_selection (location : viewer.selection.location = none)
    (mutant : viewer.selection.mutant = none) : viewer.Consistent where
  location_mem active := by rw [location] at active; cases active
  mutant_listed active := by rw [mutant] at active; cases active
  mutant_known active := by rw [mutant] at active; cases active
  mutant_passes active := by rw [mutant] at active; cases active

theorem Consistent.without_mutant {location : Location} {shows : Bool}
    (member : location ∈ viewer.report.locations) :
    (viewer.withSelection ⟨some location, none, shows⟩).Consistent where
  location_mem active := by cases active; exact member
  mutant_listed active := by cases active
  mutant_known active := by cases active
  mutant_passes active := by cases active

theorem Consistent.with_mutant {location : Location} {mutant : Mutant} {shows : Bool}
    (member : location ∈ viewer.report.locations) (listed : mutant.id ∈ location.mutantIds)
    (known : viewer.report.mutant? mutant.id = some mutant)
    (passes : viewer.filters.passes mutant = true) :
    (viewer.withSelection ⟨some location, some mutant, shows⟩).Consistent where
  location_mem active := by cases active; exact member
  mutant_listed active := by cases active; exact ⟨location, rfl, listed⟩
  mutant_known active := by cases active; exact known
  mutant_passes active := by cases active; exact passes

theorem Consistent.mutant_eq_none (consistent : viewer.Consistent)
    (unlocated : viewer.selection.location = none) : viewer.selection.mutant = none := by
  apply Option.eq_none_iff_forall_ne_some.mpr
  intro mutant active
  rcases consistent.mutant_listed active with ⟨location, located, -⟩
  rw [unlocated] at located
  cases located

/-- The active mutant is one of the candidates. -/
theorem Consistent.mem_candidates (consistent : viewer.Consistent)
    (coherent : viewer.report.Coherent) {mutant : Mutant}
    (active : viewer.selection.mutant = some mutant) : mutant ∈ viewer.candidates := by
  rcases consistent.mutant_listed active with ⟨location, located, listed⟩
  rw [candidates, located]
  exact List.mem_filter.mpr
    ⟨(coherent.mem_mutantsOf_iff location mutant).mpr ⟨listed, consistent.mutant_known active⟩,
     consistent.mutant_passes active⟩

/-- So its entry of the picker is always found. -/
theorem Consistent.exists_activeEntry (consistent : viewer.Consistent)
    (coherent : viewer.report.Coherent) : ∃ entry, viewer.activeEntry = .ok entry := by
  unfold activeEntry
  cases active : viewer.selection.mutant with
  | none => exact ⟨0, rfl⟩
  | some mutant =>
      have present :
          (viewer.candidates.findIdx? fun candidate => candidate.id == mutant.id).isSome := by
        rw [List.findIdx?_isSome, List.any_eq_true]
        exact ⟨mutant, consistent.mem_candidates coherent active, by simp⟩
      rcases Option.isSome_iff_exists.mp present with ⟨index, found⟩
      exact ⟨index + 1, by simp only [found]⟩

/-- A traversal of mutants from a consistent selection comes to a move. -/
theorem Consistent.exists_walkMutants (consistent : viewer.Consistent)
    (coherent : viewer.report.Coherent) (amount : Option Direction) (center : Bool) :
    ∃ move, viewer.walkMutants amount center = .ok move := by
  rcases consistent.exists_activeEntry coherent with ⟨entry, found⟩
  unfold walkMutants
  split
  · exact ⟨_, by rw [found]; rfl⟩
  · exact ⟨_, rfl⟩

/-! ## What moves keep -/

/-- A move ends in a consistent selection if it starts from one. -/
theorem Reaches.consistent {selection : Selection} {cause : Option Cause}
    (reached : viewer.Reaches selection cause) (coherent : viewer.report.Coherent)
    (consistent : viewer.Consistent) : (viewer.withSelection selection).Consistent := by
  cases reached with
  | kept shows =>
      exact ⟨consistent.location_mem, consistent.mutant_listed, consistent.mutant_known,
        consistent.mutant_passes⟩
  | located location preserve known =>
      have member := Report.location?_mem known
      cases kept : viewer.selection.mutant.filter fun mutant =>
          preserve && viewer.fits location mutant with
      | none => exact .without_mutant member
      | some mutant =>
          rcases Option.filter_eq_some_iff.mp kept with ⟨active, fits⟩
          have listed := (Bool.and_eq_true_iff.mp (Bool.and_eq_true_iff.mp fits).2).1
          exact .with_mutant member (by simpa using listed) (consistent.mutant_known active)
            (consistent.mutant_passes active)
  | cleared location active => exact .without_mutant (consistent.location_mem active)
  | chosen location mutant active candidate =>
      rcases List.mem_filter.mp candidate with ⟨member, passes⟩
      rcases (coherent.mem_mutantsOf_iff location mutant).mp member with ⟨listed, known⟩
      exact .with_mutant (consistent.location_mem active) listed known passes
  | jumped id location mutant known owned passes =>
      have same := coherent.mutant_id known
      subst same
      rcases coherent.owner?_spec owned with ⟨member, listed⟩
      exact .with_mutant member listed known passes

/-- No move leaves the document without an active location again. -/
theorem Reaches.location_isSome {selection : Selection} {cause : Option Cause}
    (reached : viewer.Reaches selection cause) (active : viewer.selection.location.isSome) :
    selection.location.isSome := by
  cases reached with
  | kept shows => exact active
  | located | cleared | chosen | jumped => rfl

/-- A move that is announced as one of locations ends with an active location. -/
theorem Reaches.located_of_cause {selection : Selection}
    (reached : viewer.Reaches selection (some .location)) : selection.location.isSome := by
  cases reached with
  | located => rfl

/-- A move that is not announced leaves location and mutant as they were. -/
theorem Reaches.same_of_no_cause {selection : Selection} (reached : viewer.Reaches selection none) :
    selection.location = viewer.selection.location ∧
      selection.mutant = viewer.selection.mutant := by
  cases reached with
  | kept shows => exact ⟨rfl, rfl⟩

/-- Only the filters can lose the active mutant of a consistent selection, and
the location stays in any case. -/
theorem Consistent.afterSwitch_selection (consistent : viewer.Consistent)
    (switch : Filters.Switch) :
    ((viewer.switched switch).afterSwitch switch).selection =
      { viewer.selection with
        mutant := viewer.selection.mutant.filter (viewer.switched switch).filters.passes } := by
  unfold afterSwitch
  split
  · next unlocated =>
      cases active : viewer.selection.mutant with
      | none =>
          change viewer.selection = _
          rw [Option.filter_none, ← active]
      | some mutant =>
          rcases consistent.mutant_listed active with ⟨location, located, -⟩
          rw [show viewer.selection.location = none from unlocated] at located
          cases located
  · next location located =>
      change viewer.selection.location = some location at located
      rw [← located]
      rfl

/-- A switch is announced, as a change of the mutant, only if it clears one. -/
theorem afterSwitch_cause (switch : Filters.Switch) :
    (viewer.afterSwitch switch).cause = none ∧
        (viewer.afterSwitch switch).selection = viewer.selection ∨
      (viewer.afterSwitch switch).cause = some .mutant := by
  unfold afterSwitch
  split
  · exact .inl ⟨rfl, rfl⟩
  · next location located =>
      by_cases same : viewer.selection.mutant.filter viewer.filters.passes =
          viewer.selection.mutant
      · refine .inl ⟨by simp only [same, if_true], ?_⟩
        rw [same, ← located]
      · exact .inr (by simp only [same, if_false])

theorem Consistent.afterSwitch (consistent : viewer.Consistent) (switch : Filters.Switch) :
    ((viewer.switched switch).withSelection
      ((viewer.switched switch).afterSwitch switch).selection).Consistent := by
  rw [consistent.afterSwitch_selection]
  refine ⟨consistent.location_mem, fun active => ?_, fun active => ?_, fun active => ?_⟩
  · exact consistent.mutant_listed (Option.filter_eq_some_iff.mp active).1
  · exact consistent.mutant_known (Option.filter_eq_some_iff.mp active).1
  · exact (Option.filter_eq_some_iff.mp active).2

end Viewer
end MutationViewer
