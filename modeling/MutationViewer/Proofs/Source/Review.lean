import Mathlib.Data.List.Rotate
import MutationViewer.Proofs.Source.Picker
import MutationViewer.Proofs.Source.Runs

/-!
# Reviewing all the mutants

A traversal that goes on elsewhere takes a reader through the whole document.  Its
route is the list of the selections that it stops at: forward these are all the
candidates, location by location, and backward there is also a stop without a mutant
in each location that has candidates, before the location is left.  One step leads
to the next stop of the route.  In a ring the last stop is followed by the first, and
otherwise the step is refused there.
-/

namespace MutationViewer

namespace Viewer

variable (viewer : Viewer)

/-- All the candidates of the document, in order. -/
def stream : List Mutant :=
  viewer.report.locations.flatMap (viewer.filters.candidatesAt viewer.report)

/-- The entries that a traversal stops at in a location, as it meets them. -/
def stopEntries : Direction -> Location -> List (Option Mutant)
  | .forward, location => (viewer.filters.candidatesAt viewer.report location).map some
  | .backward, location =>
      if viewer.filters.candidatesAt viewer.report location = [] then []
      else (viewer.entries location).reverse

def stops (direction : Direction) (location : Location) : List Selection :=
  (viewer.stopEntries direction location).map (viewer.atEntry location)

/-- The selections that a traversal stops at in the document, as it meets them. -/
def route (direction : Direction) : List Selection :=
  (direction.met viewer.report.locations).flatMap (viewer.stops direction)

variable {viewer} {direction : Direction} {location : Location}

theorem route_withSelection {selection : Selection}
    (shows : selection.shows = viewer.selection.shows) (direction : Direction) :
    (viewer.withSelection selection).route direction = viewer.route direction := by
  have entry : (viewer.withSelection selection).atEntry = viewer.atEntry := by
    funext location chosen
    rw [atEntry, selection_withSelection, shows, atEntry]
  unfold route stops
  rw [entry]
  rfl

theorem shows_of_mem_route {selection : Selection} (stop : selection ∈ viewer.route direction) :
    selection.shows = viewer.selection.shows := by
  rcases List.mem_flatMap.mp stop with ⟨location, -, stop⟩
  rcases List.mem_map.mp stop with ⟨entry, -, rfl⟩
  rfl

/-- What comes after a stop in a location comes after it in the picker. -/
theorem entries_of_stopEntries {earlier later : List (Option Mutant)} {entry : Option Mutant}
    (split : viewer.stopEntries direction location = earlier ++ entry :: later) :
    ∃ preceding, direction.met (viewer.entries location) = preceding ++ entry :: later := by
  cases direction with
  | forward => exact ⟨none :: earlier, congrArg (List.cons none) split⟩
  | backward =>
      by_cases unoffered : viewer.filters.candidatesAt viewer.report location = []
      · simp [stopEntries, unoffered] at split
      · rw [stopEntries, if_neg unoffered] at split
        exact ⟨earlier, split⟩

theorem head?_stopEntries (direction : Direction) (location : Location) :
    (viewer.stopEntries direction location).head? =
      (direction.firstMet (viewer.filters.candidatesAt viewer.report location)).map some := by
  cases direction with
  | forward => exact List.head?_map
  | backward =>
      cases candidates : viewer.filters.candidatesAt viewer.report location using
        List.reverseRecOn with
      | nil => simp [stopEntries, candidates, Direction.firstMet]
      | append_singleton front last => simp [stopEntries, entries, candidates, Direction.firstMet]

/-- Backward, the candidates of a location are followed by one stop without a mutant. -/
theorem stops_backward (location : Location) :
    viewer.stops .backward location =
      if viewer.filters.candidatesAt viewer.report location = [] then []
      else ((viewer.filters.candidatesAt viewer.report location).reverse.map some ++ [none]).map
        (viewer.atEntry location) := by
  by_cases unoffered : viewer.filters.candidatesAt viewer.report location = []
  · simp [stops, stopEntries, unoffered]
  · simp [stops, stopEntries, entries, unoffered]

theorem route_backward :
    viewer.route .backward = viewer.report.locations.reverse.flatMap fun location =>
      if viewer.filters.candidatesAt viewer.report location = [] then []
      else ((viewer.filters.candidatesAt viewer.report location).reverse.map some ++ [none]).map
        (viewer.atEntry location) :=
  List.flatMap_congr fun location _ => stops_backward location

/-- Backward, all the candidates are stopped at in reverse. -/
theorem filterMap_route_backward :
    (viewer.route .backward).filterMap Selection.mutant = viewer.stream.reverse := by
  rw [route_backward, List.filterMap_flatMap, stream, List.reverse_flatMap]
  apply List.flatMap_congr
  intro location _
  split
  · next unoffered => simp [unoffered]
  · simp [atEntry, List.filterMap_map, Function.comp_def]

/-- Besides the candidates there is one stop for each location that has any. -/
theorem length_route_backward :
    (viewer.route .backward).length = viewer.stream.length +
      viewer.report.locations.countP fun location =>
        viewer.filters.candidatesAt viewer.report location ≠ [] := by
  have reordered : (viewer.route .backward).length =
      (viewer.report.locations.flatMap (viewer.stops .backward)).length :=
    ((List.reverse_perm viewer.report.locations).flatMap_right _).length_eq
  rw [reordered, stream]
  induction viewer.report.locations with
  | nil => rfl
  | cons location locations ih =>
      rw [List.flatMap_cons, List.length_append, ih, List.flatMap_cons, List.length_append,
        List.countP_cons]
      rw [stops_backward]
      by_cases unoffered : viewer.filters.candidatesAt viewer.report location = []
      · simp [unoffered]
      · simp [unoffered]
        omega

section

variable (coherent : viewer.report.Coherent) (choosable : viewer.report.Choosable)

include coherent choosable

theorem nodup_stops (direction : Direction) (member : location ∈ viewer.report.locations) :
    (viewer.stops direction location).Nodup := by
  have apart := tellsApart_of_choosable coherent choosable member
  have candidates := (List.Nodup.of_map _ apart.distinct).map fun _ _ => Option.some.inj
  have injective : Function.Injective (viewer.atEntry location) := by
    intro first second same
    exact (Selection.mk.inj same).2.1
  apply List.Nodup.map injective
  cases direction with
  | forward => exact candidates
  | backward =>
      by_cases unoffered : viewer.filters.candidatesAt viewer.report location = []
      · simp [stopEntries, unoffered]
      · rw [stopEntries, if_neg unoffered, List.nodup_reverse]
        exact List.nodup_cons.mpr ⟨by simp, candidates⟩

theorem nodup_route (direction : Direction) : (viewer.route direction).Nodup := by
  have locations : (direction.met viewer.report.locations).Nodup := by
    have nodup := List.Nodup.of_map _ coherent.ids_nodup
    cases direction with
    | forward => exact nodup
    | backward => exact List.nodup_reverse.mpr nodup
  refine List.nodup_flatMap.mpr ⟨?_, ?_⟩
  · intro location member
    exact nodup_stops coherent choosable direction (Direction.mem_met.mp member)
  · apply locations.imp
    intro first second different selection here there
    rcases List.mem_map.mp here with ⟨_, -, rfl⟩
    rcases List.mem_map.mp there with ⟨_, -, same⟩
    exact different (Option.some.inj (Selection.mk.inj same).1).symm

theorem atMutant_of_mem (member : location ∈ viewer.report.locations) {mutant : Mutant}
    (candidate : mutant ∈ viewer.filters.candidatesAt viewer.report location) :
    viewer.atMutant mutant = viewer.atEntry location (some mutant) := by
  rcases (viewer.filters.mem_candidatesAt_iff coherent mutant).mp candidate with ⟨listed, -⟩
  rw [atMutant, choosable.once.owner?_eq coherent member listed]
  rfl

/-- Forward, all the candidates are stopped at and nothing else. -/
theorem route_forward : viewer.route .forward = viewer.stream.map viewer.atMutant := by
  rw [stream, List.map_flatMap]
  apply List.flatMap_congr
  intro location member
  rw [stops, stopEntries, List.map_map]
  apply List.map_congr_left
  intro mutant candidate
  exact (atMutant_of_mem coherent choosable member candidate).symm

theorem nodup_stream : viewer.stream.Nodup :=
  List.Nodup.of_map _ (route_forward coherent choosable ▸ nodup_route coherent choosable .forward)

theorem head?_stops (direction : Direction) (member : location ∈ viewer.report.locations) :
    (viewer.stops direction location).head? =
      (direction.firstMet (viewer.filters.candidatesAt viewer.report location)).map
        viewer.atMutant := by
  rw [stops, List.head?_map, head?_stopEntries, Option.map_map]
  apply Option.map_congr
  intro mutant met
  rw [Direction.firstMet_eq] at met
  have candidate := Direction.mem_met.mp (List.mem_of_mem_head? met)
  exact (atMutant_of_mem coherent choosable member candidate).symm

/-- A place on the route is a place among the locations and one among the stops there. -/
theorem exists_of_route {selection : Selection} {front back : List Selection}
    (onRoute : viewer.route direction = front ++ selection :: back) :
    ∃ location before after earlier later,
      direction.met viewer.report.locations = before ++ location :: after ∧
      viewer.stopEntries direction location = earlier ++ selection.mutant :: later ∧
      viewer.atEntry location selection.mutant = selection ∧
      front = before.flatMap (viewer.stops direction) ++ earlier.map (viewer.atEntry location) ∧
      back = later.map (viewer.atEntry location) ++ after.flatMap (viewer.stops direction) := by
  have nodup := nodup_route coherent choosable direction
  have stop : selection ∈ viewer.route direction := by simp [onRoute]
  rcases List.mem_flatMap.mp stop with ⟨location, locationMet, stop⟩
  rcases List.mem_map.mp stop with ⟨entry, entryMet, rfl⟩
  rcases List.append_of_mem locationMet with ⟨before, after, locationSplit⟩
  rcases List.append_of_mem entryMet with ⟨earlier, later, entrySplit⟩
  have parts : viewer.route direction =
      (before.flatMap (viewer.stops direction) ++ earlier.map (viewer.atEntry location)) ++
        viewer.atEntry location entry ::
          (later.map (viewer.atEntry location) ++ after.flatMap (viewer.stops direction)) := by
    simp [route, locationSplit, stops, entrySplit]
  -- Nothing is on the route twice, so the two ways to cut it there are the same.
  rw [onRoute, List.nodup_append, List.nodup_cons] at nodup
  have absent : viewer.atEntry location entry ∉ front ∧ viewer.atEntry location entry ∉ back :=
    ⟨fun member => nodup.2.2 _ member _ List.mem_cons_self rfl, nodup.2.1.1⟩
  rw [onRoute] at parts
  rcases (List.append_cons_inj_of_notMem absent.1 absent.2).mp parts with ⟨frontEq, -, backEq⟩
  exact ⟨location, before, after, earlier, later, locationSplit, entrySplit, rfl, frontEq, backEq⟩

/-- A step from a stop of the route leads to the next one. -/
theorem comes_along_route (goesOn : viewer.settings.overrun = .goOn)
    {front back : List Selection}
    (onRoute : viewer.route direction = front ++ viewer.selection :: back) (center : Bool) :
    ∃ move, viewer.walkMutants (some direction) center = .ok move ∧
      viewer.Comes move
        (Direction.forward.ahead viewer.settings.ring front viewer.selection back).head? := by
  obtain ⟨location, before, after, earlier, later, locationSplit, stopSplit, selected, frontEq,
    backEq⟩ := exists_of_route coherent choosable onRoute
  rcases entries_of_stopEntries stopSplit with ⟨preceding, entrySplit⟩
  rcases Direction.ahead_of_met entrySplit with ⟨_, _, entriesEq, entryAhead⟩
  rcases Direction.ahead_of_met locationSplit with ⟨_, _, locationsEq, locationAhead⟩
  have located : viewer.selection.location = some location := by rw [← selected]; rfl
  rcases comes_walkMutants coherent located locationsEq choosable goesOn entriesEq direction center
    with ⟨move, walked, comes⟩
  refine ⟨move, walked, ?_⟩
  have here : viewer.stops direction location = earlier.map (viewer.atEntry location) ++
      viewer.selection :: later.map (viewer.atEntry location) := by
    rw [stops, stopSplit, List.map_append, List.map_cons, selected]
  have elsewhere :
      ((Direction.forward.ahead viewer.settings.ring before location after).findSome? fun other =>
        direction.firstMet (viewer.filters.candidatesAt viewer.report other)).map viewer.atMutant =
      (Direction.forward.ahead viewer.settings.ring before location after).findSome? fun other =>
        (viewer.stops direction other).head? := by
    rw [List.map_findSome?]
    apply Direction.findSome?_congr
    intro other ahead
    have member : other ∈ viewer.report.locations :=
      Direction.mem_met.mp (locationSplit ▸ Direction.mem_of_mem_ahead ahead)
    exact (head?_stops coherent choosable direction member).symm
  rw [entryAhead, locationAhead, elsewhere, ← List.head?_map] at comes
  rw [frontEq, backEq, ← Direction.head?_ahead_flatMap _ _ here]
  simpa [Direction.ahead] using comes

/-- An active mutant is active in its own location, and that is a stop backward too. -/
theorem Consistent.on_route (consistent : viewer.Consistent) {mutant : Mutant}
    (active : viewer.selection.mutant = some mutant) :
    viewer.atMutant mutant = viewer.selection ∧ viewer.selection ∈ viewer.route .backward := by
  have candidate := consistent.mem_candidates coherent active
  rcases consistent.mutant_listed active with ⟨location, located, -⟩
  have member := consistent.location_mem located
  rw [candidates_of_located located] at candidate
  have entered : viewer.atEntry location (some mutant) = viewer.selection := by
    rw [atEntry, ← located, ← active]
  refine ⟨(atMutant_of_mem coherent choosable member candidate).trans entered, ?_⟩
  rw [← entered]
  apply List.mem_flatMap.mpr ⟨location, Direction.mem_met.mpr member, ?_⟩
  apply List.mem_map_of_mem
  rw [stopEntries, if_neg (List.ne_nil_of_mem candidate), List.mem_reverse]
  exact List.mem_cons_of_mem _ (List.mem_map_of_mem candidate)

end

end Viewer

/-! ## Taking the route -/

/-- A list around one of its items, and the round that begins behind it. -/
theorem getElem?_split {Item : Type} {items : List Item} {index : Nat} {item : Item}
    (stands : items[index]? = some item) :
    index < items.length ∧ items = items.take index ++ item :: items.drop (index + 1) ∧
      items.rotate (index + 1) = items.drop (index + 1) ++ (items.take index ++ [item]) := by
  rcases List.getElem?_eq_some_iff.mp stands with ⟨inside, here⟩
  refine ⟨inside, ?_, ?_⟩
  · rw [← here, ← List.drop_eq_getElem_cons inside, List.take_append_drop]
  · rw [List.rotate_eq_drop_append_take inside, ← here, List.take_append_getElem]

namespace SourceView

/-- Taking the same step again and again visits these selections one after the other;
every step is answered with yes. -/
inductive Visits (step : Step) : SourceView -> List Selection -> SourceView -> Prop where
  | done (view : SourceView) : Visits step view [] view
  | next {view next last : SourceView} {selections : List Selection}
      (taken : view.step step = .ok ⟨next, some true⟩) (rest : Visits step next selections last) :
      Visits step view (next.selection :: selections) last

theorem Visits.append {step : Step} {view middle last : SourceView}
    {first second : List Selection} (before : Visits step view first middle)
    (after : Visits step middle second last) : Visits step view (first ++ second) last := by
  induction before with
  | done view => exact after
  | next taken rest ih => exact .next taken (ih after)

theorem Visits.exists_first {step : Step} {view last : SourceView} {selections : List Selection}
    (visited : Visits step view selections last) (nonempty : selections ≠ []) :
    ∃ outcome, view.step step = .ok outcome ∧ outcome.answer = some true ∧
      selections.head? = some outcome.view.selection := by
  cases visited with
  | done => exact absurd rfl nonempty
  | next taken rest => exact ⟨_, taken, rfl, rfl⟩

theorem Visits.getLast?_eq {step : Step} {last : SourceView} {selections : List Selection}
    (visited : Visits step view selections last) (nonempty : selections ≠ []) :
    selections.getLast? = some last.selection := by
  induction visited with
  | done => exact absurd rfl nonempty
  | @next view next last selections taken rest ih =>
      cases rest with
      | done => rfl
      | next taken rest => rw [List.getLast?_cons_cons, ih (by simp)]

/-- A view without a link that differs from the viewer in its selection alone. -/
structure Reviews (viewer : Viewer) (view : SourceView) : Prop where
  unlinked : view.link = none
  viewer_eq : view.viewer = viewer.withSelection view.selection
  shows_eq : view.selection.shows = viewer.selection.shows

section

variable {viewer : Viewer} {view : SourceView} {direction : Direction} (center : Bool)
  (coherent : viewer.report.Coherent) (choosable : viewer.report.Choosable)
  (goesOn : viewer.settings.overrun = .goOn)

include coherent choosable goesOn

/-- A step leads to the next stop, if there is one ahead, and is refused otherwise. -/
theorem Reviews.step_along_route (reviews : Reviews viewer view) {front back : List Selection}
    (onRoute : viewer.route direction = front ++ view.selection :: back) :
    match (Direction.forward.ahead viewer.settings.ring front view.selection back).head? with
    | some selection => ∃ next, view.step (.walkMutants (some direction) center) =
        .ok ⟨next, some true⟩ ∧ Reviews viewer next ∧ next.selection = selection
    | none => view.step (.walkMutants (some direction) center) = .ok ⟨view, some false⟩ := by
  have reportEq : view.viewer.report = viewer.report := by rw [reviews.viewer_eq]; rfl
  have settingsEq : view.viewer.settings = viewer.settings := by rw [reviews.viewer_eq]; rfl
  have sameRoute : view.viewer.route direction = front ++ view.viewer.selection :: back := by
    rw [reviews.viewer_eq, Viewer.route_withSelection reviews.shows_eq, onRoute]
    rfl
  obtain ⟨move, walked, comes⟩ := Viewer.comes_along_route (reportEq ▸ coherent)
    (reportEq ▸ choosable) (settingsEq ▸ goesOn) sameRoute center
  have taken : view.step (.walkMutants (some direction) center) = .ok (view.answerMove move) := by
    change (view.viewer.walkMutants (some direction) center).map view.answerMove = _
    rw [walked]
    rfl
  rw [settingsEq] at comes
  change Viewer.Comes _ _
    (Direction.forward.ahead viewer.settings.ring front view.selection back).head? at comes
  cases met : (Direction.forward.ahead viewer.settings.ring front view.selection back).head? with
  | none =>
      rw [met] at comes
      have refused : move = view.viewer.stay false none := comes
      rw [refused] at taken
      rw [taken, answerMove, perform_stay]
      rfl
  | some selection =>
      rw [met] at comes
      rcases comes with ⟨answered, rfl⟩
      have stop : move.selection ∈ viewer.route direction :=
        onRoute ▸ Direction.mem_of_mem_ahead (List.mem_of_mem_head? met)
      have performed := viewer_perform_of_no_link reviews.unlinked move
      have selected : (view.perform move).selection = move.selection := by
        rw [SourceView.selection, performed]
        rfl
      refine ⟨view.perform move, ?_, ⟨link_perform_of_no_link reviews.unlinked move, ?_, ?_⟩,
        selected⟩
      · rw [taken, answerMove, answered]
      · rw [performed, selected, reviews.viewer_eq]
        rfl
      · rw [selected, Viewer.shows_of_mem_route stop]

/-- Along a part of the route, stop after stop is visited. -/
theorem Reviews.exists_visits (reviews : Reviews viewer view) {front back rest : List Selection}
    (onRoute : viewer.route direction = front ++ view.selection :: (back ++ rest)) :
    ∃ last, Visits (.walkMutants (some direction) center) view back last ∧
      Reviews viewer last ∧
      ∃ passed, viewer.route direction = passed ++ last.selection :: rest := by
  induction back generalizing view front with
  | nil => exact ⟨view, .done view, reviews, front, onRoute⟩
  | cons selection back ih =>
      have step := reviews.step_along_route center coherent choosable goesOn onRoute
      rcases step with ⟨next, taken, nextReviews, rfl⟩
      have further : viewer.route direction =
          (front ++ [view.selection]) ++ next.selection :: (back ++ rest) := by
        rw [onRoute]
        simp
      rcases ih nextReviews further with ⟨last, visited, lastReviews, onward⟩
      exact ⟨last, .next taken visited, lastReviews, onward⟩

/-- In a ring the route is taken to its end, and from its start on to where the view
has been. -/
theorem Reviews.exists_round (reviews : Reviews viewer view) (ring : viewer.settings.ring = true)
    {front back : List Selection}
    (onRoute : viewer.route direction = front ++ view.selection :: back) :
    ∃ last, Visits (.walkMutants (some direction) center) view
        (back ++ (front ++ [view.selection])) last ∧ last.viewer = view.viewer := by
  have toEnd : viewer.route direction = front ++ view.selection :: (back ++ []) := by
    rw [onRoute, List.append_nil]
  obtain ⟨final, visited, finalReviews, passed, atEnd⟩ :=
    reviews.exists_visits center coherent choosable goesOn toEnd
  rcases List.exists_cons_of_ne_nil (l := front ++ [view.selection]) (by simp)
    with ⟨first, others, fromStart⟩
  have around : viewer.route direction = first :: (others ++ back) := by
    rw [onRoute, List.append_cons, fromStart]
    rfl
  have step := finalReviews.step_along_route center coherent choosable goesOn atEnd
  rw [ring, show (Direction.forward.ahead true passed final.selection []).head? = some first by
    simp [Direction.ahead, ← atEnd, around]] at step
  rcases step with ⟨next, taken, nextReviews, rfl⟩
  have onward : viewer.route direction = [] ++ next.selection :: (others ++ back) := around
  rcases nextReviews.exists_visits center coherent choosable goesOn onward
    with ⟨last, visitedAgain, lastReviews, passedAgain, there⟩
  have returned : last.selection = view.selection := by
    have samePlace := onRoute.symm.trans there
    rw [List.append_cons, List.append_cons passedAgain, List.append_left_inj] at samePlace
    simpa using (congrArg List.getLast? samePlace).symm
  refine ⟨last, ?_, ?_⟩
  · rw [fromStart]
    exact visited.append (.next taken visitedAgain)
  · rw [lastReviews.viewer_eq, reviews.viewer_eq, returned]

/-- Otherwise the route is taken to its end, where the next step is refused. -/
theorem Reviews.exists_last (reviews : Reviews viewer view) (line : viewer.settings.ring = false)
    {front back : List Selection}
    (onRoute : viewer.route direction = front ++ view.selection :: back) :
    ∃ last, Visits (.walkMutants (some direction) center) view back last ∧
      last.step (.walkMutants (some direction) center) = .ok ⟨last, some false⟩ := by
  have toEnd : viewer.route direction = front ++ view.selection :: (back ++ []) := by
    rw [onRoute, List.append_nil]
  rcases reviews.exists_visits center coherent choosable goesOn toEnd
    with ⟨last, visited, lastReviews, passed, atEnd⟩
  have step := lastReviews.step_along_route center coherent choosable goesOn atEnd
  rw [line] at step
  exact ⟨last, visited, step⟩

end

/-- Over a report from a dataset whose mutants are listed once, none of them as "" or
"none", a traversal that goes on elsewhere is a review of all the candidates, wherever
a run of a view without a bar has led.  Forward the route stops at each candidate once,
in document order and in the candidate's own location; backward it stops at them in
reverse and in between once without a mutant for each location with candidates.  A
step leads to the next stop.  In a ring, steps from any stop visit the whole route and
end where they began; otherwise they visit what is left of the route, and a step from
its end is refused and changes nothing. -/
theorem traversal_reviews_candidates {data : Json} {report : Report} {notes : List Note}
    (accepted : Report.ofJson data = .ok (report, notes)) (choosable : report.Choosable)
    (settings : SourceSettings) (goesOn : settings.overrun = .goOn) (keys : Keys)
    (steps : List Step) :
    ∃ view, (ofReport report settings keys none).run steps = .ok view ∧
      view.viewer.stream.Nodup ∧
      view.viewer.route .forward = view.viewer.stream.map view.viewer.atMutant ∧
      (view.viewer.route .backward = report.locations.reverse.flatMap fun location =>
        if view.viewer.filters.candidatesAt report location = [] then []
        else ((view.viewer.filters.candidatesAt report location).reverse.map some ++ [none]).map
          (view.viewer.atEntry location)) ∧
      (view.viewer.route .backward).filterMap Selection.mutant = view.viewer.stream.reverse ∧
      (view.viewer.route .backward).length = view.viewer.stream.length +
        report.locations.countP (fun location =>
          view.viewer.filters.candidatesAt report location ≠ []) ∧
      (forall (index : Nat) mutant, view.viewer.stream[index]? = some mutant ->
        view.selection.mutant = some mutant ->
        (view.viewer.route .forward)[index]? = some view.selection ∧
          view.selection ∈ view.viewer.route .backward) ∧
      forall direction center (index : Nat),
        (view.viewer.route direction)[index]? = some view.selection ->
        (settings.ring = true ->
          (∃ outcome, view.step (.walkMutants (some direction) center) = .ok outcome ∧
            outcome.answer = some true ∧
            (view.viewer.route direction)[(index + 1) % (view.viewer.route direction).length]? =
              some outcome.view.selection) ∧
          ∃ last, Visits (.walkMutants (some direction) center) view
              ((view.viewer.route direction).rotate (index + 1)) last ∧
            last.viewer = view.viewer) ∧
        (settings.ring = false ->
          ∃ last, Visits (.walkMutants (some direction) center) view
              ((view.viewer.route direction).drop (index + 1)) last ∧
            last.step (.walkMutants (some direction) center) = .ok ⟨last, some false⟩) := by
  have coherent := Report.coherent_of_ofJson accepted
  rcases exists_run_detached coherent settings keys steps with ⟨view, ran, detached⟩
  have reportEq := detached.report_eq
  have settingsEq := detached.settings_eq
  subst reportEq settingsEq
  have reviews : Reviews view.viewer view := ⟨detached.unlinked, rfl, rfl⟩
  refine ⟨view, ran, Viewer.nodup_stream coherent choosable,
    Viewer.route_forward coherent choosable, Viewer.route_backward,
    Viewer.filterMap_route_backward, Viewer.length_route_backward, ?_, ?_⟩
  · intro index mutant stands active
    rcases detached.consistent.on_route coherent choosable active with ⟨entered, backward⟩
    refine ⟨?_, backward⟩
    rw [Viewer.route_forward coherent choosable, List.getElem?_map, stands, Option.map_some,
      entered]
    rfl
  · intro direction center index stands
    rcases getElem?_split stands with ⟨inside, onRoute, rotated⟩
    constructor
    · intro ring
      rcases reviews.exists_round center coherent choosable goesOn ring onRoute
        with ⟨last, visited, returned⟩
      rw [← rotated] at visited
      refine ⟨?_, last, visited, returned⟩
      have nonempty : 0 < (view.viewer.route direction).length := by omega
      rcases visited.exists_first (by simpa using List.ne_nil_of_length_pos nonempty)
        with ⟨outcome, taken, answered, met⟩
      refine ⟨outcome, taken, answered, ?_⟩
      rw [← met, List.head?_eq_getElem?, List.getElem?_rotate nonempty, Nat.zero_add]
    · intro line
      exact reviews.exists_last center coherent choosable goesOn line onRoute

theorem sample_choosable : Report.sample.Choosable where
  once := sample_listsOnce
  named := by decide +kernel

/-- On the small report: backward from the last mutant and around the document, which
has two locations with candidates. -/
theorem traversal_reviews_candidates_of_sample :
    Report.ofJson Report.sampleData = .ok (Report.sample, []) ∧ Report.sample.Choosable ∧
      SourceSettings.standard.overrun = .goOn ∧
      ∃ view last, (ofReport Report.sample .standard .standard none).run [.jumpTo "M3"] =
          .ok view ∧
        Visits (.walkMutants (some .backward) true) view
          [⟨some ⟨"L3", ["M3"]⟩, none, true⟩,
            ⟨some ⟨"L1", ["M1", "M2"]⟩, some (Report.sampleMutant "M2" "killed" "aor"), true⟩,
            ⟨some ⟨"L1", ["M1", "M2"]⟩, some (Report.sampleMutant "M1" "alive" "ror"), true⟩,
            ⟨some ⟨"L1", ["M1", "M2"]⟩, none, true⟩,
            ⟨some ⟨"L3", ["M3"]⟩, some (Report.sampleMutant "M3" "alive" "aor"), true⟩] last ∧
        last.viewer = view.viewer := by
  refine ⟨Report.sample_accepted, sample_choosable, rfl, ?_⟩
  rcases traversal_reviews_candidates Report.sample_accepted sample_choosable .standard rfl
    .standard [.jumpTo "M3"] with ⟨view, ran, -, -, -, -, -, -, reviewed⟩
  have reached : ((ofReport Report.sample .standard .standard none).run
      [.jumpTo "M3"]).toOption.map (fun view =>
        ((view.viewer.route .backward)[0]? == some view.selection,
          (view.viewer.route .backward).rotate 1)) =
      some (true,
        [⟨some ⟨"L3", ["M3"]⟩, none, true⟩,
          ⟨some ⟨"L1", ["M1", "M2"]⟩, some (Report.sampleMutant "M2" "killed" "aor"), true⟩,
          ⟨some ⟨"L1", ["M1", "M2"]⟩, some (Report.sampleMutant "M1" "alive" "ror"), true⟩,
          ⟨some ⟨"L1", ["M1", "M2"]⟩, none, true⟩,
          ⟨some ⟨"L3", ["M3"]⟩, some (Report.sampleMutant "M3" "alive" "aor"), true⟩]) := by
    decide +kernel
  rw [ran] at reached
  simp only [Except.toOption, Option.map_some, Option.some.injEq, Prod.mk.injEq, beq_iff_eq]
    at reached
  rcases reached with ⟨first, round⟩
  rcases ((reviewed .backward true 0 first).1 rfl).2 with ⟨last, visited, returned⟩
  rw [round] at visited
  exact ⟨view, last, ran, visited, returned⟩

end SourceView
end MutationViewer
