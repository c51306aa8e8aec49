import Mathlib.Algebra.Ring.Int.Defs
import MutationViewer.Proofs.Source.Runs

/-!
# Locations as a ring

A traversal of locations keeps no count.  Each step looks up the place of the active location
by its id, takes the next place, and goes to the location there, by its id again.  The places
after a number of steps can be counted all the same: the signs of the amounts are added to the
place of the first location, modulo the length of the document where the locations form a
ring.  Where they do not, a step that would leave the document is refused.
-/

namespace MutationViewer

namespace Direction

variable {direction : Direction} {count : Nat} {origin : Int}

theorem exists_ofInt? {amount : Int} (nonzero : amount ≠ 0) :
    ∃ direction, ofInt? amount = some direction ∧ direction.step = amount.sign := by
  rcases Int.lt_or_gt_of_ne nonzero with negative | positive
  · refine ⟨.backward, ?_, (Int.sign_eq_neg_one_of_neg negative).symm⟩
    rw [ofInt?, if_neg nonzero, if_neg (by omega)]
  · refine ⟨.forward, ?_, (Int.sign_eq_one_of_pos positive).symm⟩
    rw [ofInt?, if_neg nonzero, if_pos positive]

theorem place?_one_of_inside {ring : Bool} {place : Nat} (next : origin + direction.step = place)
    (inside : place < count) : direction.place? count ring origin 1 = some place := by
  simp only [place?, Int.cast_ofNat_Int, Int.mul_one, next]
  exact if_pos ⟨Int.natCast_nonneg place, Int.ofNat_lt.mpr inside⟩

theorem place?_one_of_line :
    direction.place? count false origin 1 =
      if 0 ≤ origin + direction.step ∧ origin + direction.step < count
      then some (origin + direction.step).toNat else none := by
  simp [place?]

/-- In a ring there is always a next place. -/
theorem place?_one_of_ring :
    direction.place? count true origin 1 = some ((origin + direction.step) % count).toNat := by
  simp only [place?, Int.cast_ofNat_Int, Int.mul_one, if_true]
  split
  · next inside => rw [Int.emod_eq_of_lt inside.1 inside.2]
  · rfl

end Direction

namespace Report

variable {report : Report}

theorem position?_lt {id : String} {place : Nat} (placed : report.position? id = some place) :
    place < report.locations.length := by
  rcases Option.map_eq_some_iff.mp placed with ⟨⟨location, found⟩, hit, rfl⟩
  have member := List.mem_reverse.mp (List.mem_of_find?_eq_some hit)
  exact (List.getElem?_eq_some_iff.mp (List.mk_mem_zipIdx_iff_getElem?.mp member)).1

theorem Coherent.position?_getElem (coherent : report.Coherent) {place : Nat}
    (inside : place < report.locations.length) :
    report.position? report.locations[place].id = some place := by
  have split : report.locations =
      report.locations.take place ++ report.locations[place] :: report.locations.drop (place + 1) := by
    rw [← List.drop_eq_getElem_cons inside, List.take_append_drop]
  rw [coherent.position?_of_split split, List.length_take, Nat.min_eq_left (Nat.le_of_lt inside)]

end Report

namespace Viewer

variable {viewer : Viewer} {direction : Direction}

/-- The place in the document of the active location, if there is one. -/
def place? (viewer : Viewer) : Option Nat :=
  viewer.selection.location.bind fun location => viewer.report.position? location.id

theorem place?_lt {place : Nat} (stands : viewer.place? = some place) :
    place < viewer.report.locations.length := by
  rcases Option.bind_eq_some_iff.mp stands with ⟨location, -, placed⟩
  exact Report.position?_lt placed

theorem origin_of_place? {place : Nat} (stands : viewer.place? = some place)
    (direction : Direction) : viewer.origin direction = place := by
  rcases Option.bind_eq_some_iff.mp stands with ⟨location, located, placed⟩
  simp [origin, located, placed]

def nextPlace? (viewer : Viewer) (direction : Direction) : Option Nat :=
  direction.place? viewer.report.locations.length viewer.settings.ring (viewer.origin direction) 1

theorem nextPlace?_of_place? {place : Nat} (stands : viewer.place? = some place)
    (direction : Direction) :
    viewer.nextPlace? direction =
      direction.place? viewer.report.locations.length viewer.settings.ring place 1 := by
  rw [nextPlace?, origin_of_place? stands]

theorem stepLocation_of_no_place (missing : viewer.nextPlace? direction = none) :
    viewer.stepLocation direction = viewer.stay false none := by
  rw [nextPlace?] at missing
  rw [stepLocation, locationAt?, missing, Option.bind_none]

/-- Where nothing is selected, the next place is the first or the last of the document. -/
theorem nextPlace?_of_no_location (unlocated : viewer.selection.location = none)
    (nonempty : 0 < viewer.report.locations.length) (direction : Direction) :
    viewer.nextPlace? direction = some (match direction with
      | .forward => 0
      | .backward => viewer.report.locations.length - 1) := by
  apply Direction.place?_one_of_inside
  · cases direction with
    | forward => simp [origin, unlocated, Direction.step]
    | backward =>
        simp only [origin, unlocated, Direction.step]
        omega
  · cases direction with
    | forward => exact nonempty
    | backward => exact Nat.sub_one_lt_of_lt nonempty

/-- A step to a place makes the location there active, without a mutant. -/
theorem stepLocation_of_place (coherent : viewer.report.Coherent) {place : Nat}
    (next : viewer.nextPlace? direction = some place)
    (inside : place < viewer.report.locations.length) :
    (viewer.stepLocation direction).selection =
        ⟨some viewer.report.locations[place], none, viewer.selection.shows⟩ ∧
      (viewer.stepLocation direction).answer = true := by
  have found := coherent.location?_of_mem (List.getElem_mem inside)
  rw [nextPlace?] at next
  rw [stepLocation, locationAt?, next, Option.bind_some, List.getElem?_eq_getElem inside]
  exact ⟨goTo_afresh found, rfl⟩

end Viewer

namespace SourceView

/-! ## Steps from location to location -/

def walk (amount : Int) : Step :=
  .walkLocations (Direction.ofInt? amount)

/-- What the steps of a run answer, up to the first that fails. -/
def answers (view : SourceView) : List Step -> List (Option Bool)
  | [] => []
  | step :: steps =>
      match view.step step with
      | .ok outcome => outcome.answer :: outcome.view.answers steps
      | .error _ => []

/-- The view has gone to a place of the document, where no mutant is active. -/
structure Lands (view : SourceView) (place : Nat) (next : SourceView) : Prop where
  viewer_eq : next.viewer = view.viewer.withSelection next.selection
  unlinked : next.link = none
  place_eq : next.viewer.place? = some place
  cleared : next.selection.mutant = none

variable {view : SourceView}

theorem walk_of_no_place {amount : Int} {direction : Direction}
    (directed : Direction.ofInt? amount = some direction)
    (missing : view.viewer.nextPlace? direction = none) :
    view.step (walk amount) = .ok ⟨view, some false⟩ := by
  have refused := Viewer.stepLocation_of_no_place missing
  rw [walk, directed]
  change Except.ok (view.answerMove (view.viewer.stepLocation direction)) = _
  rw [refused, answerMove, perform_stay]
  rfl

section

variable (coherent : view.viewer.report.Coherent) (unlinked : view.link = none)

include coherent unlinked

theorem exists_walk_of_place {amount : Int} {direction : Direction}
    (directed : Direction.ofInt? amount = some direction) {place : Nat}
    (next : view.viewer.nextPlace? direction = some place)
    (inside : place < view.viewer.report.locations.length) :
    ∃ landed, view.step (walk amount) = .ok ⟨landed, some true⟩ ∧ Lands view place landed := by
  rcases Viewer.stepLocation_of_place coherent next inside with ⟨selected, answered⟩
  have performed := viewer_perform_of_no_link unlinked (view.viewer.stepLocation direction)
  rw [selected] at performed
  have placed := coherent.position?_getElem inside
  refine ⟨view.perform (view.viewer.stepLocation direction), ?_, ?_⟩
  · rw [walk, directed, ← answered]
    rfl
  · refine ⟨?_, link_perform_of_no_link unlinked _, ?_, ?_⟩
    · rw [selection, performed]
      rfl
    · rw [performed]
      exact placed
    · rw [selection, performed]
      rfl

/-- In a ring, a step leads to the next place modulo the length of the document. -/
theorem exists_walk_of_ring (ring : view.viewer.settings.ring = true) {place : Nat}
    (stands : view.viewer.place? = some place) {amount : Int} (nonzero : amount ≠ 0) :
    ∃ landed next, view.step (walk amount) = .ok ⟨landed, some true⟩ ∧ Lands view next landed ∧
      (next : Int) = (place + amount.sign) % view.viewer.report.locations.length := by
  rcases Direction.exists_ofInt? nonzero with ⟨direction, directed, sign⟩
  have occupied := Nat.zero_lt_of_lt (Viewer.place?_lt stands)
  have next : view.viewer.nextPlace? direction =
      some ((place + amount.sign) % view.viewer.report.locations.length).toNat := by
    rw [Viewer.nextPlace?_of_place? stands, ring, Direction.place?_one_of_ring, sign]
  have lower := Int.emod_nonneg (place + amount.sign)
    (b := view.viewer.report.locations.length) (by omega)
  have upper := Int.emod_lt_of_pos (place + amount.sign)
    (b := view.viewer.report.locations.length) (by omega)
  rcases exists_walk_of_place coherent unlinked directed next (by omega) with ⟨landed, taken, lands⟩
  exact ⟨landed, _, taken, lands, Int.toNat_of_nonneg lower⟩

/-- A run of steps in a ring adds up the signs of their amounts. -/
theorem exists_run_walk (ring : view.viewer.settings.ring = true) {place : Nat}
    (stands : view.viewer.place? = some place) {amounts : List Int}
    (nonzero : ∀ amount ∈ amounts, amount ≠ 0) :
    ∃ last final, view.run (amounts.map walk) = .ok last ∧
      view.answers (amounts.map walk) = List.replicate amounts.length (some true) ∧
      last.viewer.place? = some final ∧
      (final : Int) =
        (place + (amounts.map Int.sign).sum) % view.viewer.report.locations.length ∧
      (view.selection.mutant = none ∨ amounts ≠ [] -> last.selection.mutant = none) := by
  induction amounts generalizing view place with
  | nil =>
      have inside := Viewer.place?_lt stands
      refine ⟨view, place, rfl, rfl, stands, ?_, by simp⟩
      simp only [List.map_nil, List.sum_nil, Int.add_zero]
      exact (Int.emod_eq_of_lt (by omega) (by omega)).symm
  | cons amount amounts ih =>
      rcases exists_walk_of_ring coherent unlinked ring stands (nonzero amount List.mem_cons_self)
        with ⟨landed, next, taken, lands, counted⟩
      have reportEq : landed.viewer.report = view.viewer.report := by rw [lands.viewer_eq]; rfl
      have settingsEq : landed.viewer.settings = view.viewer.settings := by
        rw [lands.viewer_eq]
        rfl
      rcases ih (reportEq.symm ▸ coherent) lands.unlinked (settingsEq.symm ▸ ring) lands.place_eq
        (fun other member => nonzero other (List.mem_cons_of_mem _ member))
        with ⟨last, final, ran, answered, there, total, cleared⟩
      refine ⟨last, final, ?_, ?_, there, ?_, fun _ => cleared (.inl lands.cleared)⟩
      · rw [List.map_cons, run, taken]
        exact ran
      · rw [List.map_cons, answers, taken]
        exact congrArg _ answered
      · rw [total, reportEq, counted, Int.emod_add_emod, List.map_cons, List.sum_cons,
          Int.add_assoc]

/-- In a line, a step leads to the next place if that is one of the document. -/
theorem walk_of_line (line : view.viewer.settings.ring = false) {place : Nat}
    (stands : view.viewer.place? = some place) {amount : Int} (nonzero : amount ≠ 0) :
    if 0 ≤ place + amount.sign ∧ place + amount.sign < view.viewer.report.locations.length then
      ∃ landed next, view.step (walk amount) = .ok ⟨landed, some true⟩ ∧ Lands view next landed ∧
        (next : Int) = place + amount.sign
    else view.step (walk amount) = .ok ⟨view, some false⟩ := by
  rcases Direction.exists_ofInt? nonzero with ⟨direction, directed, sign⟩
  have next := Viewer.nextPlace?_of_place? stands direction
  rw [line, Direction.place?_one_of_line, sign] at next
  split
  · next inside =>
      rw [if_pos inside] at next
      rcases exists_walk_of_place coherent unlinked directed next (by omega)
        with ⟨landed, taken, lands⟩
      exact ⟨landed, _, taken, lands, Int.toNat_of_nonneg inside.1⟩
  · next outside =>
      rw [if_neg outside] at next
      exact walk_of_no_place directed next

/-- Where nothing is selected, a step leads to an end of the document. -/
theorem exists_walk_of_no_location (unlocated : view.selection.location = none)
    (nonempty : 0 < view.viewer.report.locations.length) {amount : Int} (nonzero : amount ≠ 0) :
    ∃ landed, view.step (walk amount) = .ok ⟨landed, some true⟩ ∧
      Lands view (if 0 < amount then 0 else view.viewer.report.locations.length - 1) landed := by
  rcases Direction.exists_ofInt? nonzero with ⟨direction, directed, sign⟩
  have next := Viewer.nextPlace?_of_no_location unlocated nonempty direction
  cases direction with
  | forward =>
      rw [if_pos (Int.sign_eq_one_iff_pos.mp sign.symm)]
      exact exists_walk_of_place coherent unlinked directed next nonempty
  | backward =>
      have negative := Int.sign_eq_neg_one_iff_neg.mp sign.symm
      rw [if_neg (by omega)]
      exact exists_walk_of_place coherent unlinked directed next (by omega)

end

/-- Over a report from a dataset with at least one location, take any view without a bar, whatever
is selected.  In a ring, steps by any amounts but zero all succeed, and they lead from the place of
the active location to the one that the signs of the amounts add up to, modulo the number of
locations; so if these cancel or go all the way round, the steps lead back.  In a line, a step
leads to the next place if the document has it, and is refused otherwise and changes nothing.
Every step that succeeds leaves no mutant active.  Where nothing is selected yet, the first step
leads to the first location or to the last. -/
theorem locations_traversed_by_signs {data : Json} {report : Report} {notes : List Note}
    (accepted : Report.ofJson data = .ok (report, notes)) (nonempty : report.locations ≠ [])
    {view : SourceView} (opened : view.viewer.report = report) (unlinked : view.link = none) :
    (view.viewer.settings.ring = true -> forall place, view.viewer.place? = some place ->
      forall amounts : List Int, (∀ amount ∈ amounts, amount ≠ 0) ->
        ∃ last final, view.run (amounts.map walk) = .ok last ∧
          view.answers (amounts.map walk) = List.replicate amounts.length (some true) ∧
          last.viewer.place? = some final ∧
          (final : Int) = (place + (amounts.map Int.sign).sum) % report.locations.length ∧
          ((report.locations.length : Int) ∣ (amounts.map Int.sign).sum -> final = place) ∧
          (amounts ≠ [] -> last.selection.mutant = none)) ∧
      (view.viewer.settings.ring = false -> forall place, view.viewer.place? = some place ->
        forall amount : Int, amount ≠ 0 ->
          if 0 ≤ place + amount.sign ∧ place + amount.sign < report.locations.length then
            ∃ landed next, view.step (walk amount) = .ok ⟨landed, some true⟩ ∧
              Lands view next landed ∧ (next : Int) = place + amount.sign
          else view.step (walk amount) = .ok ⟨view, some false⟩) ∧
      (view.selection.location = none -> forall amount : Int, amount ≠ 0 ->
        ∃ landed, view.step (walk amount) = .ok ⟨landed, some true⟩ ∧
          Lands view (if 0 < amount then 0 else report.locations.length - 1) landed) := by
  subst opened
  have coherent := Report.coherent_of_ofJson accepted
  refine ⟨fun ring place stands amounts nonzero => ?_, fun line place stands amount nonzero => ?_,
    fun unlocated amount nonzero => ?_⟩
  · rcases exists_run_walk coherent unlinked ring stands nonzero
      with ⟨last, final, ran, answered, there, total, cleared⟩
    refine ⟨last, final, ran, answered, there, total, fun ⟨rounds, whole⟩ => ?_,
      fun some => cleared (.inr some)⟩
    have inside := Viewer.place?_lt stands
    rw [whole, Int.add_mul_emod_self_left, Int.emod_eq_of_lt (by omega) (by omega)] at total
    exact Int.ofNat_inj.mp total
  · exact walk_of_line coherent unlinked line stands nonzero
  · exact exists_walk_of_no_location coherent unlinked unlocated
      (List.length_pos_iff.mpr nonempty) nonzero

/-- On the small report of three locations: forward, over the end, and on to the start. -/
theorem locations_traversed_by_signs_on_sample :
    Report.ofJson Report.sampleData = .ok (Report.sample, []) ∧ Report.sample.locations ≠ [] ∧
      ∃ view last, (ofReport Report.sample .standard .standard none).run
          [.goTo "L2" false, .jumpTo "M1", .goTo "L2" false] = .ok view ∧
        view.viewer.place? = some 1 ∧
        view.run ([1, 7, 1].map walk) = .ok last ∧ last.viewer.place? = some 1 := by
  have accepted := Report.sample_accepted
  refine ⟨accepted, by decide, ?_⟩
  rcases exists_run_detached (Report.coherent_of_ofJson accepted) .standard .standard
    [.goTo "L2" false, .jumpTo "M1", .goTo "L2" false] with ⟨view, ran, detached⟩
  have reached : view.viewer.place? = some 1 :=
    eq_of_run ran (fun view => view.viewer.place?) (by decide +kernel)
  have ring : view.viewer.settings.ring = true := by rw [detached.settings_eq]; rfl
  rcases (locations_traversed_by_signs accepted (by decide) detached.report_eq
    detached.unlinked).1 ring 1 reached [1, 7, 1] (by decide)
    with ⟨last, final, ranOn, -, there, -, back, -⟩
  rw [back (by decide)] at there
  exact ⟨view, last, ran, reached, ranOn, there⟩

end SourceView
end MutationViewer
