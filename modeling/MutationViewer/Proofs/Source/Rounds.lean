import Mathlib.Algebra.GroupWithZero.Nat
import Mathlib.Data.List.Forall2
import Mathlib.Data.Set.List
import MutationViewer.Proofs.Source.Wrapping

/-!
# Rounds of a picker

Steps that wrap around, one for each entry of a picker, make a round: they stop at every
entry once, and at last at the one that was active at first.  They do if the ids tell the
entries apart and the bar lets the entries stand as they come.

Nothing else can make up for a step that misses the next entry, though the entry might
still be reached by another step that misses its own.  For a step that misses ends at a
shorter id, and a round stops in all at ids as long as those that its steps were to stop at.
-/

namespace MutationViewer
namespace Direction

variable {Item : Type} {direction : Direction} {before after rest : List Item} {current item : Item}

theorem met_perm (direction : Direction) (items : List Item) :
    (direction.met items).Perm items := by
  cases direction with
  | forward => exact .refl items
  | backward => exact List.reverse_perm items

/-- In a ring all the items are ahead, and the current one comes last. -/
theorem ahead_ring (direction : Direction) (before : List Item) (current : Item)
    (after : List Item) :
    direction.ahead true before current after = direction.met (after ++ before) ++ [current] := by
  cases direction <;> simp [ahead, met]

theorem ahead_ring_perm (direction : Direction) (before : List Item) (current : Item)
    (after : List Item) :
    (direction.ahead true before current after).Perm (before ++ current :: after) := by
  rw [ahead_ring]
  calc List.Perm (direction.met (after ++ before) ++ [current]) (after ++ before ++ [current]) :=
        (direction.met_perm _).append_right _
    List.Perm _ (current :: (after ++ before)) := List.perm_append_singleton _ _
    List.Perm _ (current :: (before ++ after)) := List.perm_append_comm.cons _
    List.Perm _ (before ++ current :: after) := List.perm_middle.symm

/-- From the item that is met first, the same items are ahead, and it comes last itself. -/
theorem ahead_turn (met : direction.ahead true before current after = item :: rest) :
    ∃ earlier later, before ++ current :: after = earlier ++ item :: later ∧
      earlier.length = direction.turn (before ++ current :: after).length before.length ∧
      direction.ahead true earlier item later = rest ++ [item] := by
  cases direction with
  | forward =>
      cases after with
      | nil =>
          cases before with
          | nil =>
              cases met
              exact ⟨[], [], rfl, rfl, rfl⟩
          | cons first before =>
              cases met
              exact ⟨[], before ++ [current], rfl, by simp [turn], by simp [ahead]⟩
      | cons next after =>
          cases met
          exact ⟨before ++ [current], after, by simp, by simp [turn], by simp [ahead]⟩
  | backward =>
      cases before using List.reverseRecOn with
      | nil =>
          cases after using List.reverseRecOn with
          | nil =>
              cases met
              exact ⟨[], [], rfl, rfl, rfl⟩
          | append_singleton after last =>
              simp only [ahead, List.reverse_nil, List.nil_append, if_true, List.reverse_cons,
                List.reverse_append, List.reverse_nil, List.cons_append, List.cons.injEq] at met
              rcases met with ⟨rfl, rfl⟩
              exact ⟨current :: after, [], by simp, by simp [turn], by simp [ahead]⟩
      | append_singleton before last =>
          simp only [ahead, List.reverse_append, List.reverse_cons, List.reverse_nil,
            List.nil_append, List.cons_append, if_true, List.cons.injEq] at met
          rcases met with ⟨rfl, rfl⟩
          exact ⟨before, current :: after, by simp, by simp [turn], by simp [ahead]⟩

end Direction

section

variable {turn weight : Nat -> Nat} {place : Nat} {places : List Nat}
  (chain : List.IsChain (fun here there => there = turn here ∨ weight there < weight (turn here))
    (place :: places))

include chain

/-- If every step ends at the next place or at a lighter one, the places that are stopped at
weigh no more than the next ones, and they are the next ones if they weigh the same. -/
theorem sum_weight_le_of_chain :
    (places.map weight).sum ≤ ((place :: places).dropLast.map (weight ∘ turn)).sum ∧
      ((places.map weight).sum = ((place :: places).dropLast.map (weight ∘ turn)).sum ->
        List.IsChain (fun here there => there = turn here) (place :: places)) := by
  induction places generalizing place with
  | nil => exact ⟨le_rfl, fun _ => .singleton place⟩
  | cons next places ih =>
      rw [List.isChain_cons_cons] at chain
      rcases chain with ⟨step, rest⟩
      rcases ih rest with ⟨lighter, exact⟩
      simp only [List.map_cons, List.sum_cons, List.dropLast_cons_cons, Function.comp_apply]
        at lighter exact ⊢
      have here : weight next ≤ weight (turn place) := by
        rcases step with rfl | less
        · exact le_rfl
        · exact less.le
      refine ⟨by omega, fun same => ?_⟩
      have next_eq : next = turn place := step.resolve_right (by omega)
      exact List.isChain_cons_cons.mpr ⟨next_eq, exact (by omega)⟩

/-- A round that stops at every place once and ends where it began misses no next place. -/
theorem isChain_turn_of_round {count : Nat} (round : places.Perm (List.range count))
    (returns : places.getLast? = some place)
    (turned : ((List.range count).map turn).Perm (List.range count)) :
    List.IsChain (fun here there => there = turn here) (place :: places) := by
  rcases List.getLast?_eq_some_iff.mp returns with ⟨front, rfl⟩
  apply (sum_weight_le_of_chain chain).2
  have starts : ((place :: (front ++ [place])).dropLast).Perm (List.range count) := by
    rw [← List.cons_append, List.dropLast_concat]
    exact (List.perm_append_singleton place front).symm.trans round
  calc ((front ++ [place]).map weight).sum
      = ((List.range count).map weight).sum := (round.map weight).sum_nat
    _ = (((List.range count).map turn).map weight).sum := ((turned.map weight).sum_nat).symm
    _ = ((List.range count).map (weight ∘ turn)).sum := by rw [List.map_map]
    _ = ((place :: (front ++ [place])).dropLast.map (weight ∘ turn)).sum :=
        ((starts.map (weight ∘ turn)).sum_nat).symm

end

namespace Viewer

variable {viewer : Viewer} {location : Location}

/-- The selections are in the location, and these are the numbers of their entries. -/
def StopsAt (viewer : Viewer) (location : Location) : List Selection -> List Nat -> Prop :=
  List.Forall₂ fun selection place =>
    selection.location = some location ∧ (viewer.withSelection selection).activeEntry = .ok place

theorem stopsAt_iff {selections : List Selection} {places : List Nat} :
    viewer.StopsAt location selections places ↔
      (∀ selection ∈ selections, selection.location = some location) ∧
        (selections.map fun selection => (viewer.withSelection selection).activeEntry) =
          places.map .ok := by
  rw [StopsAt, List.forall₂_and_left, ← List.forall₂_eq_eq_eq, List.forall₂_map_left_iff,
    List.forall₂_map_right_iff]

/-- A bar that shows this text lets the selections stand, as they are made one after the
other. -/
def LetsPass (viewer : Viewer) : String -> List Selection -> Prop
  | _, [] => True
  | shown, selection :: selections =>
      viewer.LetsStand shown selection ∧
        viewer.LetsPass (Fragment.normalize (SourceView.fragmentOf .mutant selection)) selections

theorem consistent_atEntry (coherent : viewer.report.Coherent)
    (member : location ∈ viewer.report.locations) {entry : Option Mutant}
    (offered : entry ∈ viewer.entries location) :
    (viewer.withSelection (viewer.atEntry location entry)).Consistent := by
  have candidate : ∀ mutant ∈ entry, mutant.id ∈ location.mutantIds ∧
      viewer.report.mutant? mutant.id = some mutant ∧ viewer.filters.passes mutant = true := by
    rintro mutant rfl
    rw [← viewer.filters.mem_candidatesAt_iff coherent mutant]
    simpa [entries] using offered
  exact {
    location_mem := fun located => by cases located; exact member
    mutant_listed := fun active => ⟨location, rfl, (candidate _ active).1⟩
    mutant_known := fun active => (candidate _ active).2.1
    mutant_passes := fun active => (candidate _ active).2.2 }

theorem letsPass_of_echoFree (coherent : viewer.report.Coherent)
    (echoFree : viewer.report.EchoFree) (member : location ∈ viewer.report.locations)
    {entries : List (Option Mutant)} (offered : ∀ entry ∈ entries, entry ∈ viewer.entries location)
    (shown : String) : viewer.LetsPass shown (entries.map (viewer.atEntry location)) := by
  induction entries generalizing shown with
  | nil => trivial
  | cons entry entries ih =>
      have consistent := consistent_atEntry coherent member (offered entry List.mem_cons_self)
      refine ⟨.inr ?_, ih (fun other among => offered other (List.mem_cons_of_mem _ among)) _⟩
      exact consistent.unanswered coherent echoFree fun asked => by cases asked

/-- The last selection is made when the bar shows the one before. -/
theorem LetsPass.letsStand_last {first second : Selection} {selections : List Selection}
    {shown : String} (passes : viewer.LetsPass shown (selections ++ [first, second])) :
    viewer.LetsStand (Fragment.normalize (SourceView.fragmentOf .mutant first)) second := by
  induction selections generalizing shown with
  | nil => exact passes.2.1
  | cons selection selections ih => exact ih passes.2

end Viewer

namespace SourceView

variable {view : SourceView} {location : Location} {direction : Direction}

/-! ## Rounds -/

/-- Steps in a direction, one for each entry of the location's picker, stay in the location,
stop at every entry once and end at the one that was active at first. -/
def MakesRound (view : SourceView) (location : Location) (direction : Direction)
    (center : Bool) : Prop :=
  ∃ selections last, Visits (.walkMutants (some direction) center) view selections last ∧
    (∀ selection ∈ selections, selection.location = some location) ∧
    (selections.map fun selection => (view.viewer.withSelection selection).activeEntry).Perm
      ((List.range (view.viewer.entries location).length).map .ok) ∧
    last.selection.mutant = view.selection.mutant

/-- Every entry is found once, so no two of them have the same id. -/
theorem MakesRound.distinct {center : Bool} (made : view.MakesRound location direction center) :
    ((view.viewer.filters.candidatesAt view.viewer.report location).map Mutant.id).Nodup := by
  rcases made with ⟨selections, last, -, stay, round, -⟩
  apply Viewer.distinct_of_activeEntries
  intro place inside
  have member := round.mem_iff.mpr (List.mem_map_of_mem (List.mem_range.mpr inside))
  rcases List.mem_map.mp member with ⟨selection, visited, active⟩
  exact ⟨selection, stay selection visited, active⟩

/-- A step forward is undone by one backward. -/
def StepsBack (view : SourceView) (center : Bool) : Prop :=
  ∃ there back, view.step (.walkMutants (some .forward) center) = .ok there ∧
    there.view.step (.walkMutants (some .backward) center) = .ok back ∧
    back.view.selection = view.selection

/-- The view is in the location, and it differs from the viewer in its selection alone. -/
structure StandsIn (viewer : Viewer) (location : Location) (view : SourceView) : Prop where
  viewer_eq : view.viewer = viewer.withSelection view.selection
  located : view.selection.location = some location

section

variable {viewer : Viewer} {center : Bool} {last : SourceView} {selections : List Selection}
  (coherent : viewer.report.Coherent) (wraps : viewer.settings.overrun = .wrap)
  (distinct : ((viewer.filters.candidatesAt viewer.report location).map Mutant.id).Nodup)

include coherent wraps distinct

/-- A step of a view that stands in the location. -/
theorem StandsIn.exists_step (standsIn : StandsIn viewer location view) {place : Nat}
    (active : view.viewer.activeEntry = .ok place) (direction : Direction) (center : Bool) :
    ∃ next entry, view.step (.walkMutants (some direction) center) = .ok ⟨next, some true⟩ ∧
      (viewer.entries location)[direction.turn (viewer.entries location).length place]? =
        some entry ∧
      Arrives view location entry next ∧ next.viewer = viewer.withSelection next.selection := by
  have viewerEq := standsIn.viewer_eq
  have reportEq : view.viewer.report = viewer.report := by rw [viewerEq]; rfl
  have settingsEq : view.viewer.settings = viewer.settings := by rw [viewerEq]; rfl
  have filtersEq : view.viewer.filters = viewer.filters := by rw [viewerEq]; rfl
  have entriesEq : view.viewer.entries location = viewer.entries location := by rw [viewerEq]; rfl
  rcases exists_step_of_wraps (reportEq ▸ coherent) (by rwa [reportEq, filtersEq])
    standsIn.located (settingsEq ▸ wraps) active direction center
    with ⟨next, entry, taken, stands, arrives⟩
  rw [entriesEq] at stands
  refine ⟨next, entry, taken, stands, arrives, ?_⟩
  rw [arrives.viewer_eq, viewerEq]
  rfl

/-- Each step ends at the next place, or at the place of a shorter id. -/
theorem Visits.isChain_places
    (visited : Visits (.walkMutants (some direction) center) view selections last)
    (standsIn : StandsIn viewer location view) {place : Nat}
    (active : view.viewer.activeEntry = .ok place) {places : List Nat}
    (stops : viewer.StopsAt location selections places) :
    List.IsChain (fun here there =>
      there = direction.turn (viewer.entries location).length here ∨
        Viewer.idLength (viewer.entries location)[there]?.join <
          Viewer.idLength
            (viewer.entries location)[direction.turn (viewer.entries location).length here]?.join)
      (place :: places) := by
  induction visited generalizing place places with
  | done view =>
      cases stops
      exact .singleton place
  | @next view next last selections taken rest ih =>
      rcases stops with _ | ⟨⟨stay, here⟩, stops⟩
      rename_i there places
      rcases standsIn.exists_step coherent wraps distinct active direction center
        with ⟨_, entry, taken', stands, arrives, viewerEq⟩
      cases taken.symm.trans taken'
      have nextStands : StandsIn viewer location next := ⟨viewerEq, stay⟩
      have activeNext : next.viewer.activeEntry = .ok there := by rw [viewerEq]; exact here
      refine List.isChain_cons_cons.mpr ⟨?_, ih nextStands activeNext stops⟩
      by_cases admits : view.Admits location entry
      · left
        rw [(arrives.admitted admits).1] at here
        have turned : (viewer.withSelection (view.viewer.atEntry location entry)).activeEntry =
            .ok (direction.turn (viewer.entries location).length place) :=
          Viewer.activeEntry_of_stands distinct rfl stands
        exact Except.ok.inj (here.symm.trans turned)
      · right
        rcases Viewer.entry_of_activeEntry here stay with ⟨other, found, same⟩
        have foundHere : (viewer.entries location)[there]? = some other := found
        rw [foundHere, stands, Option.join_some, Option.join_some, Viewer.idLength_congr same]
        exact arrives.refused admits

end

/-- The view is at an entry of the location's picker, and these entries are ahead of it in the
direction, with its own the last of them. -/
structure Facing (viewer : Viewer) (location : Location) (direction : Direction)
    (ahead : List (Option Mutant)) (view : SourceView) : Prop where
  viewer_eq : view.viewer = viewer.withSelection (viewer.atEntry location view.selection.mutant)
  split : ∃ earlier later,
    viewer.entries location = earlier ++ view.selection.mutant :: later ∧
      direction.ahead true earlier view.selection.mutant later = ahead

namespace Facing

variable {viewer : Viewer} {center : Bool} {ahead path rest : List (Option Mutant)}
  {entry : Option Mutant}

theorem standsIn (facing : Facing viewer location direction ahead view) :
    StandsIn viewer location view where
  viewer_eq := by
    rw [facing.viewer_eq, selection, facing.viewer_eq]
    rfl
  located := by
    rw [selection, facing.viewer_eq]
    rfl

theorem selection_eq (facing : Facing viewer location direction ahead view) :
    view.selection = viewer.atEntry location view.selection.mutant :=
  congrArg Viewer.selection facing.viewer_eq

theorem perm (facing : Facing viewer location direction ahead view) :
    ahead.Perm (viewer.entries location) := by
  rcases facing.split with ⟨earlier, later, split, rfl⟩
  rw [split]
  exact direction.ahead_ring_perm earlier view.selection.mutant later

theorem getLast?_eq (facing : Facing viewer location direction ahead view) :
    ahead.getLast? = some view.selection.mutant := by
  rcases facing.split with ⟨earlier, later, -, rfl⟩
  rw [Direction.ahead_ring, List.getLast?_concat]

/-- Backward the same entries are ahead in the reverse order. -/
theorem turned {others : List (Option Mutant)}
    (facing : Facing viewer location .forward (others ++ [view.selection.mutant]) view) :
    Facing viewer location .backward (others.reverse ++ [view.selection.mutant]) view where
  viewer_eq := facing.viewer_eq
  split := by
    rcases facing.split with ⟨earlier, later, split, met⟩
    refine ⟨earlier, later, split, ?_⟩
    rw [Direction.ahead_ring, List.append_left_inj] at met
    rw [Direction.ahead_ring, ← met]
    rfl

theorem admits_iff (facing : Facing viewer location direction ahead view) :
    view.Admits location entry ↔
      (∀ mutant ∈ entry, mutant.id ≠ "" ∧ mutant.id ≠ Viewer.noneEntry) ∧
        ∀ shown ∈ view.shown, viewer.LetsStand shown (viewer.atEntry location entry) := by
  have same : ∀ shown, view.viewer.LetsStand shown (view.viewer.atEntry location entry) ↔
      viewer.LetsStand shown (viewer.atEntry location entry) := by
    intro shown
    rw [facing.viewer_eq]
    rfl
  constructor
  · intro admits
    exact ⟨admits.named, fun shown there => (same shown).mp (admits.letsStand shown there)⟩
  · rintro ⟨named, letsStand⟩
    exact ⟨named, fun shown there => (same shown).mpr (letsStand shown there)⟩

section

variable (coherent : viewer.report.Coherent) (wraps : viewer.settings.overrun = .wrap)
  (distinct : ((viewer.filters.candidatesAt viewer.report location).map Mutant.id).Nodup)

include coherent wraps distinct

/-- A step leads to the first entry ahead, and from there that entry is the last ahead. -/
theorem exists_step (facing : Facing viewer location direction (entry :: rest) view)
    (center : Bool) :
    ∃ next place, view.step (.walkMutants (some direction) center) = .ok ⟨next, some true⟩ ∧
      view.viewer.activeEntry = .ok place ∧
      (viewer.entries location)[direction.turn (viewer.entries location).length place]? =
        some entry ∧
      Arrives view location entry next ∧
      (view.Admits location entry ->
        next.selection = viewer.atEntry location entry ∧
          Facing viewer location direction (rest ++ [entry]) next ∧
          next.shown = view.shown.map fun _ =>
            Fragment.normalize (fragmentOf .mutant (viewer.atEntry location entry))) := by
  rcases facing.split with ⟨earlier, later, split, met⟩
  rcases Direction.ahead_turn met with ⟨before, after, resplit, turned, met⟩
  rw [← split] at resplit turned
  have active : view.viewer.activeEntry = .ok earlier.length := by
    rw [facing.standsIn.viewer_eq]
    exact Viewer.activeEntry_withSelection distinct facing.standsIn.located split
  rcases facing.standsIn.exists_step coherent wraps distinct active direction center
    with ⟨next, other, taken, stands, arrives, viewerEq⟩
  have first : other = entry := by
    rw [← turned, resplit, List.getElem?_append_right le_rfl, Nat.sub_self] at stands
    exact (Option.some.inj stands).symm
  subst first
  refine ⟨next, earlier.length, taken, active, stands, arrives, fun admits => ?_⟩
  have sameEntry : view.viewer.atEntry location other = viewer.atEntry location other := by
    rw [facing.viewer_eq]
    rfl
  rcases arrives.admitted admits with ⟨arrived, shown⟩
  rw [sameEntry] at arrived shown
  have mutantEq : next.selection.mutant = other := by rw [arrived]; rfl
  refine ⟨arrived, ⟨?_, before, after, ?_, ?_⟩, shown⟩
  · rw [viewerEq, arrived]
    rfl
  · rw [mutantEq, resplit]
  · rw [mutantEq, met]

/-- Entries that are admitted one after the other are visited in this order. -/
theorem exists_visits (facing : Facing viewer location direction (path ++ rest) view)
    (named : ∀ entry ∈ path, ∀ mutant ∈ entry, mutant.id ≠ "" ∧ mutant.id ≠ Viewer.noneEntry)
    (passes : ∀ shown ∈ view.shown,
      viewer.LetsPass shown (path.map (viewer.atEntry location))) (center : Bool) :
    ∃ last, Visits (.walkMutants (some direction) center) view
        (path.map (viewer.atEntry location)) last ∧
      Facing viewer location direction (rest ++ path) last := by
  induction path generalizing view rest with
  | nil => exact ⟨view, .done view, by simpa using facing⟩
  | cons entry path ih =>
      rw [List.cons_append] at facing
      have admits : view.Admits location entry := facing.admits_iff.mpr
        ⟨named entry List.mem_cons_self, fun shown there => (passes shown there).1⟩
      rcases facing.exists_step coherent wraps distinct center
        with ⟨next, place, taken, -, -, -, arrived⟩
      rcases arrived admits with ⟨selected, further, nextShown⟩
      rw [List.append_assoc] at further
      have nextPasses : ∀ shown ∈ next.shown,
          viewer.LetsPass shown (path.map (viewer.atEntry location)) := by
        rw [nextShown]
        intro _ there
        rcases Option.map_eq_some_iff.mp there with ⟨shown, before, rfl⟩
        exact (passes shown before).2
      rcases ih further (fun other member => named other (List.mem_cons_of_mem _ member)) nextPasses
        with ⟨last, visited, lastFacing⟩
      refine ⟨last, ?_, by simpa using lastFacing⟩
      rw [List.map_cons, ← selected]
      exact .next taken visited

/-- If steps never miss the next place, all the entries on the way are admitted. -/
theorem passes_of_visits {last : SourceView} {selections : List Selection}
    (visited : Visits (.walkMutants (some direction) center) view selections last)
    (facing : Facing viewer location direction (path ++ rest) view)
    (length : selections.length = path.length) {place : Nat}
    (active : view.viewer.activeEntry = .ok place) {places : List Nat}
    (stops : viewer.StopsAt location selections places)
    (chain : List.IsChain (fun here there =>
      there = direction.turn (viewer.entries location).length here) (place :: places)) :
    (∀ entry ∈ path, ∀ mutant ∈ entry, mutant.id ≠ "" ∧ mutant.id ≠ Viewer.noneEntry) ∧
      ∀ shown ∈ view.shown, viewer.LetsPass shown (path.map (viewer.atEntry location)) := by
  induction visited generalizing path rest place places with
  | done view =>
      cases path with
      | nil => exact ⟨by simp, fun _ _ => trivial⟩
      | cons => cases length
  | @next view next last selections taken visited ih =>
      rcases stops with _ | ⟨⟨stay, here⟩, stops⟩
      rename_i there places
      rcases List.isChain_cons_cons.mp chain with ⟨turned, chain⟩
      cases path with
      | nil => cases length
      | cons entry path =>
          rw [List.cons_append] at facing
          rcases facing.exists_step coherent wraps distinct center
            with ⟨_, number, taken', active', stands, arrives, arrived⟩
          cases taken.symm.trans taken'
          cases active.symm.trans active'
          rw [← turned] at stands
          have admits : view.Admits location entry := by
            by_contra refused
            -- The entry at the next place has the id of the mutant that became active.
            rcases Viewer.entry_of_activeEntry here stay with ⟨other, found, same⟩
            cases stands.symm.trans (show (viewer.entries location)[there]? = _ from found)
            have shorter := arrives.refused refused
            rw [Viewer.idLength_congr same] at shorter
            exact Nat.lt_irrefl _ shorter
          rcases arrived admits with ⟨selected, further, nextShown⟩
          rw [List.append_assoc] at further
          have activeNext : next.viewer.activeEntry = .ok there := by
            rw [further.standsIn.viewer_eq]
            exact here
          rcases ih further (Nat.succ.inj length) activeNext stops chain with ⟨named, passes⟩
          rcases facing.admits_iff.mp admits with ⟨entryNamed, letsStand⟩
          refine ⟨List.forall_mem_cons.mpr ⟨entryNamed, named⟩, fun shown there => ?_⟩
          refine ⟨letsStand shown there, passes _ ?_⟩
          rw [nextShown, there]
          rfl

end

theorem exists_places (facing : Facing view.viewer location direction ahead view)
    (made : view.MakesRound location direction center) :
    ∃ selections last place places,
      Visits (.walkMutants (some direction) center) view selections last ∧
      view.viewer.StopsAt location selections places ∧
      places.Perm (List.range (view.viewer.entries location).length) ∧
      view.viewer.activeEntry = .ok place ∧ places.getLast? = some place := by
  have distinct := made.distinct
  rcases made with ⟨selections, last, visited, stay, round, returned⟩
  have numbered : ∃ places : List Nat, places.map Except.ok = selections.map fun selection =>
      (view.viewer.withSelection selection).activeEntry := by
    rw [← Set.mem_range, Set.range_list_map]
    intro active member
    rcases List.mem_map.mp (round.mem_iff.mp member) with ⟨place, -, found⟩
    exact ⟨place, found⟩
  rcases numbered with ⟨places, stopped⟩
  rw [← stopped, List.map_perm_map_iff fun _ _ => Except.ok.inj] at round
  have nonempty : selections ≠ [] := by
    rintro rfl
    rw [List.map_nil, List.map_eq_nil_iff] at stopped
    have counted := round.length_eq
    simp [stopped, Viewer.entries] at counted
  rcases facing.split with ⟨earlier, later, split, -⟩
  have active := Viewer.activeEntry_of_split distinct facing.standsIn.located split
  have ends := visited.getLast?_eq nonempty
  rw [← returned] at split
  have activeAgain : (view.viewer.withSelection last.selection).activeEntry = .ok earlier.length :=
    Viewer.activeEntry_withSelection distinct (stay _ (List.mem_of_getLast? ends)) split
  have lastStop := congrArg List.getLast? stopped
  rw [List.getLast?_map, List.getLast?_map, ends, Option.map_some, activeAgain] at lastStop
  rcases Option.map_eq_some_iff.mp lastStop with ⟨place, found, same⟩
  rw [Except.ok.inj same] at found
  exact ⟨selections, last, _, places, visited, Viewer.stopsAt_iff.mpr ⟨stay, stopped.symm⟩, round,
    active, found⟩

/-- A round is made just if the ids tell the entries apart and the bar lets the entries stand,
as they come. -/
theorem makesRound_iff (facing : Facing view.viewer location direction ahead view)
    (coherent : view.viewer.report.Coherent) (wraps : view.viewer.settings.overrun = .wrap)
    (center : Bool) :
    view.MakesRound location direction center ↔
      view.viewer.TellsApart location ∧
        ∀ shown ∈ view.shown,
          view.viewer.LetsPass shown (ahead.map (view.viewer.atEntry location)) := by
  have all : Facing view.viewer location direction (ahead ++ []) view := by
    rwa [List.append_nil]
  constructor
  · intro made
    have distinct := made.distinct
    rcases facing.exists_places made
      with ⟨selections, last, place, places, visited, stops, round, active, returns⟩
    have chain := isChain_turn_of_round
      (visited.isChain_places coherent wraps distinct facing.standsIn active stops)
      round returns (direction.map_turn_perm _)
    have length : selections.length = ahead.length := by
      rw [List.Forall₂.length_eq stops, round.length_eq, List.length_range, facing.perm.length_eq]
    rcases all.passes_of_visits coherent wraps distinct visited length active stops chain
      with ⟨named, passes⟩
    refine ⟨⟨distinct, fun mutant candidate => ?_⟩, passes⟩
    have offered : some mutant ∈ view.viewer.entries location := by simp [Viewer.entries, candidate]
    exact named _ (facing.perm.mem_iff.mpr offered) mutant rfl
  · rintro ⟨apart, passes⟩
    rcases all.exists_visits coherent wraps apart.distinct
      (fun entry member => apart.named_entry (facing.perm.mem_iff.mp member)) passes center
      with ⟨last, visited, again⟩
    refine ⟨_, last, visited, ?_, ?_, ?_⟩
    · intro selection member
      rcases List.mem_map.mp member with ⟨entry, -, rfl⟩
      rfl
    · rw [List.map_map, ← Viewer.map_activeEntry_entries apart.distinct]
      exact facing.perm.map _
    · exact Option.some.inj (again.getLast?_eq.symm.trans facing.getLast?_eq)

/-- Where rounds are made in both directions, a step forward is undone by one backward: the
round backward ends with the same step. -/
theorem stepsBack {others : List (Option Mutant)}
    (facing : Facing view.viewer location .forward (others ++ [view.selection.mutant]) view)
    (coherent : view.viewer.report.Coherent) (wraps : view.viewer.settings.overrun = .wrap)
    (apart : view.viewer.TellsApart location)
    (forward : ∀ shown ∈ view.shown, view.viewer.LetsPass shown
      ((others ++ [view.selection.mutant]).map (view.viewer.atEntry location)))
    (backward : ∀ shown ∈ view.shown, view.viewer.LetsPass shown
      ((others.reverse ++ [view.selection.mutant]).map (view.viewer.atEntry location)))
    (center : Bool) : view.StepsBack center := by
  have named : ∀ entry ∈ others ++ [view.selection.mutant],
      ∀ mutant ∈ entry, mutant.id ≠ "" ∧ mutant.id ≠ Viewer.noneEntry :=
    fun entry member => apart.named_entry (facing.perm.mem_iff.mp member)
  rcases List.exists_cons_of_ne_nil (List.append_ne_nil_of_right_ne_nil others
    (List.cons_ne_nil view.selection.mutant [])) with ⟨entry, rest, first⟩
  rw [first] at facing
  have admits : view.Admits location entry := facing.admits_iff.mpr
    ⟨named entry (first ▸ List.mem_cons_self), fun shown there => by
      have passes := forward shown there
      rw [first] at passes
      exact passes.1⟩
  rcases facing.exists_step coherent wraps apart.distinct center
    with ⟨next, _, taken, -, -, -, arrived⟩
  rcases arrived admits with ⟨selected, there, nextShown⟩
  have nextEntry : next.selection.mutant = entry := by rw [selected]; rfl
  rw [← nextEntry] at there
  have back : ∃ tail, Facing view.viewer location .backward (view.selection.mutant :: tail) next ∧
      ∀ shown ∈ next.shown, view.viewer.LetsStand shown
        (view.viewer.atEntry location view.selection.mutant) := by
    cases others with
    | nil =>
        cases first
        refine ⟨[], by rw [← nextEntry]; simpa using there.turned, fun _ heard => ?_⟩
        rw [nextShown] at heard
        rcases Option.map_eq_some_iff.mp heard with ⟨_, -, rfl⟩
        exact .inl rfl
    | cons other others =>
        cases first
        refine ⟨others.reverse ++ [next.selection.mutant], by simpa using there.turned,
          fun _ heard => ?_⟩
        rw [nextShown] at heard
        rcases Option.map_eq_some_iff.mp heard with ⟨shown, before, rfl⟩
        have passes := backward shown before
        rw [List.reverse_cons, List.append_assoc, List.map_append] at passes
        exact passes.letsStand_last
  rcases back with ⟨tail, back, letsStand⟩
  have admitsBack : next.Admits location view.selection.mutant :=
    back.admits_iff.mpr ⟨named _ (by simp), letsStand⟩
  rcases back.exists_step coherent wraps apart.distinct center
    with ⟨last, _, takenBack, -, -, -, arrivedBack⟩
  refine ⟨_, _, taken, takenBack, ?_⟩
  rw [(arrivedBack admitsBack).1, facing.selection_eq]
  rfl

end Facing

/-- Over a report from a dataset, wherever a run leads and whatever is filtered out, traversals
that wrap around make a round through the picker of the active location just if the ids tell its
entries apart and the bar, if there is one, lets the entries stand as they come.  Where they make
rounds in both directions, a step forward is undone by one backward. -/
theorem wrapped_traversal_makes_round_iff {data : Json} {report : Report} {notes : List Note}
    (accepted : Report.ofJson data = .ok (report, notes)) {settings : SourceSettings}
    (wraps : settings.overrun = .wrap) (keys : Keys) (bar : Option History) (steps : List Step) :
    ∃ view, (ofReport report settings keys bar).run steps = .ok view ∧
      forall location, view.selection.location = some location ->
        ∃ earlier later,
          view.viewer.entries location = earlier ++ view.selection.mutant :: later ∧
          (forall direction center, view.MakesRound location direction center ↔
            view.viewer.TellsApart location ∧
              ∀ shown ∈ view.shown, view.viewer.LetsPass shown
                ((direction.ahead true earlier view.selection.mutant later).map
                  (view.viewer.atEntry location))) ∧
          forall center, (forall direction, view.MakesRound location direction center) ->
            view.StepsBack center := by
  have coherent := Report.coherent_of_ofJson accepted
  have opened := consistent_ofReport report settings keys bar
  rcases exists_run_keeps coherent opened steps with ⟨view, ran, kept⟩
  have consistent := kept.consistent coherent opened
  have reportEq : view.viewer.report = report := kept.report_eq
  have settingsEq : view.viewer.settings = settings := kept.settings_eq
  subst reportEq settingsEq
  refine ⟨view, ran, fun location located => ?_⟩
  have offered : view.selection.mutant ∈ view.viewer.entries location := by
    cases active : view.selection.mutant with
    | none => exact List.mem_cons_self
    | some mutant =>
        have candidate := consistent.mem_candidates coherent active
        rw [Viewer.candidates_of_located located] at candidate
        exact List.mem_cons_of_mem _ (List.mem_map_of_mem candidate)
  rcases List.append_of_mem offered with ⟨earlier, later, split⟩
  have facing (direction : Direction) : Facing view.viewer location direction
      (direction.ahead true earlier view.selection.mutant later) view := by
    refine ⟨?_, earlier, later, split, rfl⟩
    rw [Viewer.atEntry, ← located]
    rfl
  have rounds (direction : Direction) := (facing direction).makesRound_iff coherent wraps
  refine ⟨earlier, later, split, rounds, fun center made => ?_⟩
  have forward := (rounds .forward center).mp (made .forward)
  have backward := (rounds .backward center).mp (made .backward)
  have facingForward := facing .forward
  rw [Direction.ahead_ring] at facingForward forward backward
  exact facingForward.stepsBack coherent wraps forward.1 forward.2 backward.2 center

/-- The standard settings, but traversals wrap around. -/
def wrapping : SourceSettings :=
  { SourceSettings.standard with overrun := .wrap }

/-- On the small report: around the two mutants of the first location, with a bar. -/
theorem wrapped_traversal_makes_round_on_sample :
    Report.ofJson Report.sampleData = .ok (Report.sample, []) ∧ wrapping.overrun = .wrap ∧
      ∃ view, (ofReport Report.sample wrapping .standard (some (.ofFragment "M3"))).run
          [.start, .choose (some "M2")] = .ok view ∧
        view.selection.location = some ⟨"L1", ["M1", "M2"]⟩ ∧ view.viewer.candidates.length = 2 ∧
        (forall direction center, view.MakesRound ⟨"L1", ["M1", "M2"]⟩ direction center) ∧
        forall center, view.StepsBack center := by
  have accepted := Report.sample_accepted
  have coherent := Report.coherent_of_ofJson accepted
  refine ⟨accepted, rfl, ?_⟩
  rcases wrapped_traversal_makes_round_iff accepted (rfl : wrapping.overrun = .wrap) .standard
    (some (.ofFragment "M3")) [.start, .choose (some "M2")] with ⟨view, ran, rounds⟩
  have reached : ((ofReport Report.sample wrapping .standard (some (.ofFragment "M3"))).run
      [.start, .choose (some "M2")]).toOption.map (fun view =>
        (view.selection.location, view.viewer.candidates.length)) =
      some (some ⟨"L1", ["M1", "M2"]⟩, 2) := by
    decide +kernel
  rw [ran] at reached
  simp only [Except.toOption, Option.map_some, Option.some.injEq, Prod.mk.injEq] at reached
  rcases reached with ⟨located, offered⟩
  rcases rounds _ located with ⟨earlier, later, split, round, back⟩
  rcases exists_run_keeps coherent (consistent_ofReport Report.sample wrapping .standard
    (some (.ofFragment "M3"))) [.start, .choose (some "M2")] with ⟨same, ranSame, kept⟩
  cases ran.symm.trans ranSame
  have reportEq : view.viewer.report = Report.sample := kept.report_eq
  have member : (⟨"L1", ["M1", "M2"]⟩ : Location) ∈ view.viewer.report.locations := by
    rw [reportEq]
    exact List.mem_cons_self
  have made : forall direction center, view.MakesRound ⟨"L1", ["M1", "M2"]⟩ direction center := by
    intro direction center
    refine (round direction center).mpr ⟨?_, fun shown _ => ?_⟩
    · exact Viewer.tellsApart_of_choosable (reportEq ▸ coherent) (reportEq ▸ sample_choosable) member
    · exact Viewer.letsPass_of_echoFree (reportEq ▸ coherent)
        (reportEq ▸ Report.sample_addressable.echoFree coherent) member
        (fun entry ahead => split ▸ Direction.mem_of_mem_ahead ahead) shown
  exact ⟨view, ran, located, offered, made, fun center => back center fun direction =>
    made direction center⟩

/-- One location that lists the first of its two mutants twice. -/
def repeatedData : Json :=
  .object
    [("mutants", .list [.object [("id", .text "M1")], .object [("id", .text "M2")]]),
     ("locations", .list
        [.object [("id", .text "L1"), ("mutants", .list [.text "M1", .text "M1", .text "M2"])]])]

def repeated : Report where
  locations := [⟨"L1", ["M1", "M1", "M2"]⟩]
  mutants := .ofList
    [("M1", Report.sampleMutant "M1" "unknown" ""), ("M2", Report.sampleMutant "M2" "unknown" "")]
  statusLabels := []
  kindLabels := []
  kills := .empty

/-- A mutant that is listed twice is never passed: as many steps as there are entries visit
nothing else, and do not lead back to "none". -/
theorem repeated_mutant_not_passed :
    Report.ofJson repeatedData = .ok (repeated, []) ∧ wrapping.overrun = .wrap ∧
      ∃ view last, (ofReport repeated wrapping .standard none).run [.start] = .ok view ∧
        view.selection = ⟨some ⟨"L1", ["M1", "M1", "M2"]⟩, none, true⟩ ∧
        view.viewer.candidates.length = 3 ∧
        Visits (.walkMutants (some .forward) true) view
          (List.replicate 4 ⟨some ⟨"L1", ["M1", "M1", "M2"]⟩,
            some (Report.sampleMutant "M1" "unknown" ""), true⟩) last ∧
        ¬ view.MakesRound ⟨"L1", ["M1", "M1", "M2"]⟩ .forward true := by
  let view := (ofReport repeated wrapping .standard none).perform
    (Viewer.ofReport repeated wrapping).start
  let once := view.perform (view.viewer.chooseEntry 1)
  let twice := once.perform (once.viewer.chooseEntry 2)
  let thrice := twice.perform (twice.viewer.chooseEntry 2)
  let last := thrice.perform (thrice.viewer.chooseEntry 2)
  have first : view.step (.walkMutants (some .forward) true) = .ok ⟨once, some true⟩ :=
    @step_of_wraps view ⟨"L1", ["M1", "M1", "M2"]⟩ .forward (by decide +kernel)
      (by decide +kernel) 0 1 (by decide +kernel) (by decide +kernel) true
  have second : once.step (.walkMutants (some .forward) true) = .ok ⟨twice, some true⟩ :=
    @step_of_wraps once ⟨"L1", ["M1", "M1", "M2"]⟩ .forward (by decide +kernel)
      (by decide +kernel) 1 2 (by decide +kernel) (by decide +kernel) true
  have third : twice.step (.walkMutants (some .forward) true) = .ok ⟨thrice, some true⟩ :=
    @step_of_wraps twice ⟨"L1", ["M1", "M1", "M2"]⟩ .forward (by decide +kernel)
      (by decide +kernel) 1 2 (by decide +kernel) (by decide +kernel) true
  have fourth : thrice.step (.walkMutants (some .forward) true) = .ok ⟨last, some true⟩ :=
    @step_of_wraps thrice ⟨"L1", ["M1", "M1", "M2"]⟩ .forward (by decide +kernel)
      (by decide +kernel) 1 2 (by decide +kernel) (by decide +kernel) true
  have visited : Visits (.walkMutants (some .forward) true) view
      [once.selection, twice.selection, thrice.selection, last.selection] last :=
    .next first (.next second (.next third (.next fourth (.done last))))
  refine ⟨rfl, rfl, view, last, rfl, by decide +kernel, by decide +kernel, ?_, ?_⟩
  · have same : [once.selection, twice.selection, thrice.selection, last.selection] =
        List.replicate 4 ⟨some ⟨"L1", ["M1", "M1", "M2"]⟩,
          some (Report.sampleMutant "M1" "unknown" ""), true⟩ := by
      decide +kernel
    rwa [← same]
  · intro made
    have distinct := made.distinct
    revert distinct
    decide +kernel

end SourceView
end MutationViewer
