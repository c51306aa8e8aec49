import MutationViewer.Proofs.Source.Announcing

/-!
# Bringing the location into view

Keys and the wheel traverse the mutants in the same way, and differ only in that keys bring a
location that is newly active into view.  A traversal looks at this wish in one place, where it
goes on in another location, and the command is given last, when everyone has been told.  So
with the wish and without it a traversal ends in the same state, with the same answer and the
same announcements; and the commands to the screen are the same but for one more at the end,
which is there exactly if the active location is another one and the settings ask for it.  A
traversal that goes once around the document and comes back gives no such command.
-/

namespace MutationViewer
namespace Viewer

variable {viewer : Viewer}

/-- How a traversal that wishes to bring the location into view differs from one that does not:
not at all if the location stays, and else only in the wish. -/
inductive Wishes (viewer : Viewer) (plain : Move) : Move -> Prop where
  | stays (same : plain.selection.location = viewer.selection.location) :
      Wishes viewer plain plain
  | goes (answered : plain.answer = true) (wishless : plain.centers = false) :
      Wishes viewer plain { plain with centers := true }

theorem wishes_stay (answer : Bool) (note : Option Note) :
    viewer.Wishes (viewer.stay answer note) (viewer.stay answer note) :=
  .stays rfl

theorem location_choose (entry : Option String) :
    (viewer.choose entry).selection.location = viewer.selection.location := by
  unfold choose
  split
  · rfl
  · next location located => exact located.symm

theorem wishes_chooseEntry (entry : Nat) :
    viewer.Wishes (viewer.chooseEntry entry) (viewer.chooseEntry entry) :=
  .stays (location_choose _)

section

variable (coherent : viewer.report.Coherent) {location : Location}
  (located : viewer.selection.location = some location)
  (member : location ∈ viewer.report.locations)

include coherent located member

theorem wishes_goOn (direction : Direction) :
    viewer.Wishes (viewer.goOn direction false) (viewer.goOn direction true) := by
  cases met : viewer.nextCandidate? direction with
  | none =>
      simp only [goOn, met]
      exact wishes_stay _ _
  | some mutant =>
      rcases List.append_of_mem member with ⟨before, after, split⟩
      have answered := (goOn_of_met coherent located split met false).2.1
      have wishless : (viewer.goOn direction false).centers = false := by
        simp only [goOn, met]
      have wishing : viewer.goOn direction true =
          { viewer.goOn direction false with centers := true } := by
        simp only [goOn, met]
      rw [wishing]
      exact .goes answered wishless

theorem wishes_stepEntry (direction : Direction) (entry : Nat) :
    viewer.Wishes (viewer.stepEntry direction false entry)
      (viewer.stepEntry direction true entry) := by
  unfold stepEntry
  dsimp only
  split
  · exact wishes_chooseEntry _
  · unfold pastEnd
    split
    · exact wishes_stay _ _
    · exact wishes_chooseEntry _
    · exact wishes_goOn coherent located member direction

end

theorem Consistent.exists_wishes (consistent : viewer.Consistent)
    (coherent : viewer.report.Coherent) (amount : Option Direction) :
    ∃ plain wishing, viewer.walkMutants amount false = .ok plain ∧
      viewer.walkMutants amount true = .ok wishing ∧ viewer.Wishes plain wishing := by
  rcases consistent.exists_activeEntry coherent with ⟨entry, active⟩
  cases located : viewer.selection.location with
  | none =>
      simp only [walkMutants, located]
      exact ⟨_, _, rfl, rfl, wishes_stay _ _⟩
  | some location =>
      cases amount with
      | none =>
          simp only [walkMutants, located]
          exact ⟨_, _, rfl, rfl, wishes_stay _ _⟩
      | some direction =>
          simp only [walkMutants, located, active]
          exact ⟨_, _, rfl, rfl, wishes_stepEntry coherent located
            (consistent.location_mem located) direction entry⟩

end Viewer

namespace SourceView

def paints (view : SourceView) : List Paint :=
  view.effects.filterMap Effect.paint?

/-- The settings ask for another location to be brought into view. -/
def Reveals (before after : SourceView) : Prop :=
  before.viewer.settings.centering = true ∧ after.selection.location ≠ before.selection.location

instance (before after : SourceView) : Decidable (before.Reveals after) :=
  inferInstanceAs (Decidable (_ ∧ _))

/-- What a step leads to without and with the wish: the same state and the same announcements,
and the same commands, but for one more at the end if a location is to be brought into view. -/
structure RevealsOnly (before plain wishing : SourceView) : Prop where
  viewer_eq : wishing.viewer = plain.viewer
  announcements_eq : wishing.announcements = plain.announcements
  paints_eq :
    if before.Reveals plain
    then ∃ location, plain.selection.location = some location ∧
      wishing.paints = plain.paints ++ [.center location.id]
    else wishing.paints = plain.paints

variable {view told : SourceView}

theorem paints_center (view : SourceView) (element : String) :
    (view.center element).paints = view.paints ++ [.center element] := by
  simp [paints, center, paint, Effect.paint?]

theorem revealsOnly_self (unmoved : ¬ view.Reveals told) : view.RevealsOnly told told where
  viewer_eq := rfl
  announcements_eq := rfl
  paints_eq := by rw [if_neg unmoved]

/-- Bringing another location into view is what is wished. -/
theorem revealsOnly_centerFrom (active : told.selection.location.isSome)
    (moved : view.Reveals told) :
    view.RevealsOnly told (told.centerFrom view.selection.location) where
  viewer_eq := told.viewer_centerFrom _
  announcements_eq := told.announcements_centerFrom _
  paints_eq := by
    rcases Option.isSome_iff_exists.mp active with ⟨location, located⟩
    rw [if_pos moved, centerFrom, if_neg moved.2, located]
    exact ⟨location, rfl, told.paints_center location.id⟩

theorem centerFrom_of_same {before : Option Location} (same : view.selection.location = before) :
    view.centerFrom before = view := by
  rw [centerFrom, if_pos same]

/-- Centering comes last, so a wish for it only adds to what is done without. -/
theorem perform_wishing (view : SourceView) {move : Move} (wishless : move.centers = false)
    (answered : move.answer = true) :
    view.perform { move with centers := true } =
      if view.viewer.settings.centering then (view.perform move).centerFrom view.selection.location
      else view.perform move := by
  unfold perform
  simp only [wishless, answered, Bool.false_and, Bool.true_and, Bool.false_eq_true, if_false]
  rfl

/-- A traversal with the wish does what it does without, and then at most brings the location into
view. -/
theorem revealsOnly_of_wishes (unlinked : view.link = none) {plain wishing : Move}
    (kept : view.selection.location.isSome -> plain.selection.location.isSome)
    (wishes : view.viewer.Wishes plain wishing) :
    wishing.answer = plain.answer ∧
      view.RevealsOnly (view.perform plain) (view.perform wishing) := by
  have selected : (view.perform plain).selection = plain.selection := by
    rw [selection, viewer_perform_of_no_link unlinked]
    rfl
  cases wishes with
  | stays same =>
      have unmoved : (view.perform plain).selection.location = view.selection.location := by
        rw [selected]
        exact same
      exact ⟨rfl, revealsOnly_self fun moved => moved.2 unmoved⟩
  | goes answered wishless =>
      refine ⟨rfl, ?_⟩
      rw [view.perform_wishing wishless answered]
      by_cases moved : view.Reveals (view.perform plain)
      · have active : (view.perform plain).selection.location.isSome := by
          rw [selected]
          cases located : view.selection.location with
          | none => exact Option.isSome_iff_ne_none.mpr (located ▸ selected ▸ moved.2)
          | some location => exact kept (by rw [located]; rfl)
        rw [if_pos moved.1]
        exact revealsOnly_centerFrom active moved
      · split
        · next centering =>
            have same := by_contra fun other => moved ⟨centering, other⟩
            rw [centerFrom_of_same same]
            exact revealsOnly_self moved
        · exact revealsOnly_self moved

/-- Over a report from a dataset, wherever a run of a view without a bar leads, traversing the
mutants with and without the wish to bring the location into view comes to the same answer, the
same state and the same announcements.  The commands to the screen are the same as well, and with
the wish one more follows, which brings the active location into view, exactly if another location
has become active and the settings ask for it.  A key that is bound to a traversal has the wish,
and a turn of the wheel over the active location has not. -/
theorem keys_and_wheel_differ_in_view {data : Json} {report : Report} {notes : List Note}
    (accepted : Report.ofJson data = .ok (report, notes)) (settings : SourceSettings) (keys : Keys)
    (steps : List Step) :
    ∃ view, (ofReport report settings keys none).run steps = .ok view ∧
      view.viewer.settings = settings ∧
      forall amount, ∃ plain wishing, view.step (.walkMutants amount false) = .ok plain ∧
        view.step (.walkMutants amount true) = .ok wishing ∧
        wishing.answer = plain.answer ∧ view.RevealsOnly plain.view wishing.view ∧
        (forall code direction, amount = some direction ->
          view.keys.action? code = some (.mutant direction) ->
          view.step (.key code) = .ok ⟨wishing.view, some true⟩) ∧
        (forall location, amount.isSome -> view.selection.location = some location ->
          view.step (.wheel (some location.id) amount) = .ok plain) := by
  have coherent := Report.coherent_of_ofJson accepted
  rcases exists_run_detached coherent settings keys steps with ⟨view, ran, detached⟩
  have reportEq := detached.report_eq
  subst reportEq
  refine ⟨view, ran, detached.settings_eq, fun amount => ?_⟩
  rcases detached.consistent.exists_wishes coherent amount
    with ⟨plain, wishing, walked, walkedWishing, wishes⟩
  have kept := (view.viewer.elementary_of_walkMutants walked).allows.location_isSome
  rcases revealsOnly_of_wishes detached.unlinked kept wishes with ⟨answered, reveals⟩
  refine ⟨view.answerMove plain, view.answerMove wishing, ?_, ?_, congrArg some answered,
    reveals, ?_, ?_⟩
  · rw [step, traverse, walked]
    rfl
  · rw [step, traverse, walkedWishing]
    rfl
  · rintro code direction rfl bound
    rw [step, pressKey, bound]
    dsimp only
    rw [walkedWishing]
    rfl
  · intro location turned located
    rw [step, turnWheel, located]
    dsimp only
    rw [if_pos ⟨rfl, turned⟩, traverse, walked]
    rfl

/-- On the small report: the traversal leaves the first location for the third, passing over the
second, which has no mutants. -/
theorem keys_and_wheel_differ_in_view_on_sample :
    Report.ofJson Report.sampleData = .ok (Report.sample, []) ∧
      ∃ view plain wishing, (ofReport Report.sample .standard .standard none).run
          [.goTo "L1" false, .jumpTo "M2"] = .ok view ∧
        view.step (.walkMutants (some .forward) false) = .ok plain ∧
        view.step (.walkMutants (some .forward) true) = .ok wishing ∧
        wishing.view.viewer = plain.view.viewer ∧
        wishing.view.paints = plain.view.paints ++ [.center "L3"] := by
  refine ⟨Report.sample_accepted, ?_⟩
  rcases keys_and_wheel_differ_in_view Report.sample_accepted .standard .standard
    [.goTo "L1" false, .jumpTo "M2"] with ⟨view, ran, settingsEq, each⟩
  rcases each (some .forward) with ⟨plain, wishing, taken, wished, -, reveals, -⟩
  have before : view.selection.location.map Location.id = some "L1" :=
    eq_of_run ran (fun view => view.selection.location.map Location.id) (by decide +kernel)
  have after : (view.step (.walkMutants (some .forward) false)).toOption.bind
      (fun outcome => outcome.view.selection.location.map Location.id) = some "L3" :=
    eq_of_run ran (fun view => (view.step (.walkMutants (some .forward) false)).toOption.bind
      fun outcome => outcome.view.selection.location.map Location.id) (by decide +kernel)
  simp only [taken, Except.toOption, Option.bind_some] at after
  have moved : view.Reveals plain.view := by
    refine ⟨by rw [settingsEq]; rfl, fun same => ?_⟩
    rw [same, before] at after
    simp at after
  have commands := reveals.paints_eq
  rw [if_pos moved] at commands
  rcases commands with ⟨location, located, added⟩
  rw [located, Option.map_some, Option.some.injEq] at after
  exact ⟨view, plain, wishing, ran, taken, wished, reveals.viewer_eq, after ▸ added⟩

end SourceView
end MutationViewer
