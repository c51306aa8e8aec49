import MutationViewer.Proofs.Filters
import MutationViewer.Proofs.Source.Browsing
import MutationViewer.Proofs.Source.Link
import MutationViewer.Proofs.Source.Runs

/-!
# Switching filters in any order

A switch that loses the active mutant is announced, and the link clears the bar; a mutant that
is lost does not come back when the value is included again.  So what switches come to depends
on two things only, how often each of them is taken and whether one of them concerns the active
mutant; and neither depends on their order.  That the first switch of a value excludes it, and
does not include it, holds because an active mutant passes whatever has happened before.
-/

namespace MutationViewer

/-- The link after the empty fragment has been written. -/
def Link.cleared (link : Link) : Link where
  history := (link.history.step (.write (some ""))).history
  followed := ""

namespace Viewer

variable (viewer : Viewer)

/-- Whether one of the switches concerns the active mutant. -/
def loses (switches : List Filters.Switch) : Bool :=
  viewer.selection.mutant.any fun mutant => decide (Filters.Concern switches mutant)

/-- The viewer with the filters switched, and without a mutant that the switches concern. -/
def switchedAll (switches : List Filters.Switch) : Viewer :=
  { viewer with
    filters := viewer.filters.toggleAll switches
    selection :=
      { viewer.selection with
        mutant := if viewer.loses switches then none else viewer.selection.mutant } }

theorem loses_eq_true_iff (switches : List Filters.Switch) :
    viewer.loses switches = true ↔
      ∃ mutant, viewer.selection.mutant = some mutant ∧ Filters.Concern switches mutant := by
  unfold loses
  cases viewer.selection.mutant <;> simp

theorem loses_of_cleared {viewer : Viewer} (cleared : viewer.selection.mutant = none)
    (switches : List Filters.Switch) : viewer.loses switches = false := by
  rw [loses, cleared]
  rfl

theorem mutant_switchedAll_of_loses {viewer : Viewer} {switches : List Filters.Switch}
    (lost : viewer.loses switches = true) : (viewer.switchedAll switches).selection.mutant = none :=
  if_pos lost

theorem loses_nil : viewer.loses [] = false := by
  unfold loses
  cases viewer.selection.mutant with
  | none => rfl
  | some mutant => simp [Filters.Concern]

theorem switchedAll_nil : viewer.switchedAll [] = viewer := by
  rw [switchedAll, loses_nil]
  rfl

theorem loses_cons (switch : Filters.Switch) (switches : List Filters.Switch) :
    viewer.loses (switch :: switches) =
      (viewer.loses [switch] || (viewer.switchedAll [switch]).loses switches) := by
  unfold switchedAll loses
  cases viewer.selection.mutant with
  | none => rfl
  | some mutant =>
      have apart := Filters.concern_cons_iff switch switches mutant
      by_cases concerned : Filters.Concern [switch] mutant <;> simp [concerned, apart]

theorem switchedAll_cons (switch : Filters.Switch) (switches : List Filters.Switch) :
    viewer.switchedAll (switch :: switches) =
      (viewer.switchedAll [switch]).switchedAll switches := by
  have mutantEq : (if viewer.loses (switch :: switches) then none else viewer.selection.mutant) =
      if (viewer.switchedAll [switch]).loses switches then none
      else (viewer.switchedAll [switch]).selection.mutant := by
    rw [loses_cons]
    change _ = if _ then none else if viewer.loses [switch] then none else viewer.selection.mutant
    cases viewer.loses [switch] <;> simp
  rw [switchedAll, mutantEq]
  rfl

variable {viewer}

theorem loses_perm {switches permuted : List Filters.Switch} (perm : switches.Perm permuted) :
    viewer.loses switches = viewer.loses permuted := by
  unfold loses
  simp only [Filters.concern_perm perm]

theorem switchedAll_perm {switches permuted : List Filters.Switch}
    (perm : switches.Perm permuted) :
    viewer.switchedAll switches = viewer.switchedAll permuted := by
  rw [switchedAll, switchedAll, loses_perm perm, Filters.toggleAll_perm _ perm]

/-- What is lost with one switch does not pass after it, and nothing else is lost. -/
theorem Consistent.filter_passes_switched (consistent : viewer.Consistent)
    (switch : Filters.Switch) :
    viewer.selection.mutant.filter (viewer.switched switch).filters.passes =
      if viewer.loses [switch] then none else viewer.selection.mutant := by
  unfold loses
  cases active : viewer.selection.mutant with
  | none => rfl
  | some mutant =>
      have passes : (viewer.switched switch).filters.passes mutant = true ↔
          ¬ Filters.Concern [switch] mutant :=
        Filters.passes_toggle_iff (consistent.mutant_passes active) switch
      rw [Option.filter_some, Option.any_some]
      by_cases concerned : Filters.Concern [switch] mutant <;> simp only [passes, concerned] <;> rfl

theorem Consistent.withSelection_afterSwitch (consistent : viewer.Consistent)
    (switch : Filters.Switch) :
    (viewer.switched switch).withSelection
      ((viewer.switched switch).afterSwitch switch).selection = viewer.switchedAll [switch] := by
  rw [consistent.afterSwitch_selection, consistent.filter_passes_switched]
  rfl

/-- A switch is announced, as a change of the mutant, just if it loses one. -/
theorem Consistent.cause_afterSwitch (consistent : viewer.Consistent)
    (switch : Filters.Switch) :
    ((viewer.switched switch).afterSwitch switch).cause =
      if viewer.loses [switch] then some .mutant else none := by
  have kept := consistent.filter_passes_switched switch
  cases lost : viewer.loses [switch] with
  | false =>
      rw [lost] at kept
      unfold Viewer.afterSwitch
      split
      · rfl
      · exact if_pos kept
  | true =>
      rw [lost] at kept
      rcases (viewer.loses_eq_true_iff [switch]).mp lost with ⟨mutant, active, -⟩
      rcases consistent.mutant_listed active with ⟨location, located, -⟩
      have changed : viewer.selection.mutant.filter (viewer.switched switch).filters.passes ≠
          viewer.selection.mutant := by
        rw [kept, active]
        exact (Option.some_ne_none mutant).symm
      unfold Viewer.afterSwitch
      split
      · next unlocated => exact absurd (unlocated.symm.trans located) nofun
      · exact if_neg changed

end Viewer

namespace SourceView

/-- A change of the mutant to none is written as the empty fragment, without an echo. -/
theorem perform_of_cleared (view : SourceView) {move : Move} (spoken : move.cause = some .mutant)
    (cleared : move.selection.mutant = none) :
    (view.perform move).viewer = view.viewer.withSelection move.selection ∧
      (view.perform move).link = view.link.map Link.cleared := by
  have empty : fragmentOf .mutant move.selection = "" := by
    unfold fragmentOf
    rw [cleared]
  have shown := view.history?_perform_of_cause spoken
  rw [empty] at shown
  cases linked : view.link with
  | none => exact ⟨viewer_perform_of_no_link linked move, link_perform_of_no_link linked move⟩
  | some link =>
      rcases perform_spec_of_cause spoken linked (by rw [empty]; rfl)
        with ⟨viewerEq, history, linkEq, -⟩
      refine ⟨viewerEq, ?_⟩
      rw [history?, linkEq, history?, linked] at shown
      have written : history = (link.history.step (.write (some ""))).history :=
        Option.some.inj shown
      rw [linkEq, empty, written]
      rfl

/-! ## Runs of switches -/

variable {view : SourceView}

/-- What switches leave of a view: if one of them concerns the active mutant, the link has
written the empty fragment once, and otherwise the link is as it was. -/
structure SwitchedBy (view : SourceView) (switches : List Filters.Switch) (next : SourceView) :
    Prop where
  viewer_eq : next.viewer = view.viewer.switchedAll switches
  link_eq : next.link =
    if view.viewer.loses switches then view.link.map Link.cleared else view.link

theorem SwitchedBy.refl (view : SourceView) : view.SwitchedBy [] view where
  viewer_eq := view.viewer.switchedAll_nil.symm
  link_eq := by
    rw [Viewer.loses_nil]
    rfl

/-- Once a mutant is lost the link stays as it is, so the empty fragment is not written again. -/
theorem SwitchedBy.cons {switch : Filters.Switch} {switches : List Filters.Switch}
    {next later : SourceView} (first : view.SwitchedBy [switch] next)
    (rest : next.SwitchedBy switches later) : view.SwitchedBy (switch :: switches) later where
  viewer_eq := by rw [rest.viewer_eq, first.viewer_eq, ← Viewer.switchedAll_cons]
  link_eq := by
    have lost := view.viewer.loses_cons switch switches
    rw [rest.link_eq, first.viewer_eq, first.link_eq, lost]
    cases first : view.viewer.loses [switch] with
    | false => rfl
    | true =>
        rw [Viewer.loses_of_cleared (Viewer.mutant_switchedAll_of_loses first)]
        rfl

theorem switchedBy_switch (consistent : view.viewer.Consistent) (switch : Filters.Switch) :
    view.SwitchedBy [switch] (view.switch switch).1 := by
  let switched : SourceView := { view with viewer := view.viewer.switched switch }
  have viewerEq := consistent.withSelection_afterSwitch switch
  have causeEq := consistent.cause_afterSwitch switch
  change view.SwitchedBy [switch]
    (switched.perform ((view.viewer.switched switch).afterSwitch switch))
  generalize (view.viewer.switched switch).afterSwitch switch = move at viewerEq causeEq ⊢
  cases lost : view.viewer.loses [switch] with
  | false =>
      rw [lost] at causeEq
      exact ⟨(viewer_perform_of_no_cause switched causeEq).trans viewerEq,
        (link_perform_of_no_cause switched causeEq).trans (by rw [lost]; rfl)⟩
  | true =>
      rw [lost] at causeEq
      have cleared : move.selection.mutant = none :=
        (congrArg (fun viewer => viewer.selection.mutant) viewerEq).trans
          (Viewer.mutant_switchedAll_of_loses lost)
      rcases switched.perform_of_cleared causeEq cleared with ⟨performed, linkEq⟩
      exact ⟨performed.trans viewerEq, linkEq.trans (by rw [lost]; rfl)⟩

/-- Switches that are taken one after the other never fail, and come to what each of them
adds. -/
theorem exists_run_switches (coherent : view.viewer.report.Coherent)
    (consistent : view.viewer.Consistent) (switches : List Filters.Switch) :
    ∃ next, view.run (switches.map .switch) = .ok next ∧ view.SwitchedBy switches next := by
  induction switches generalizing view with
  | nil => exact ⟨view, rfl, .refl view⟩
  | cons switch switches ih =>
      have kept := view.keeps_switch switch
      have first := switchedBy_switch consistent switch
      rcases ih (kept.report_eq.symm ▸ coherent) (kept.consistent coherent consistent)
        with ⟨next, ran, rest⟩
      exact ⟨next, ran, first.cons rest⟩

/-- The order in which switches are taken does not show. -/
theorem SwitchedBy.same_of_perm {switches permuted : List Filters.Switch}
    (perm : switches.Perm permuted) {next other : SourceView}
    (switchedBy : view.SwitchedBy switches next) (permutedBy : view.SwitchedBy permuted other) :
    next.viewer = other.viewer ∧ next.link = other.link := by
  constructor
  · rw [switchedBy.viewer_eq, permutedBy.viewer_eq, Viewer.switchedAll_perm perm]
  · rw [switchedBy.link_eq, permutedBy.link_eq, Viewer.loses_perm perm]

/-- An active mutant is cleared if one of the switches concerns it, and none becomes active. -/
theorem SwitchedBy.mutant_of_active {switches : List Filters.Switch} {next : SourceView}
    (switchedBy : view.SwitchedBy switches next) {mutant : Mutant}
    (active : view.selection.mutant = some mutant) :
    next.selection.mutant = if Filters.Concern switches mutant then none else some mutant := by
  have activeHere : view.viewer.selection.mutant = some mutant := active
  rw [selection, switchedBy.viewer_eq, Viewer.switchedAll, Viewer.loses, activeHere]
  simp

theorem SwitchedBy.mutant_of_none {switches : List Filters.Switch} {next : SourceView}
    (switchedBy : view.SwitchedBy switches next) (cleared : view.selection.mutant = none) :
    next.selection.mutant = none := by
  rw [selection, switchedBy.viewer_eq, Viewer.switchedAll, Viewer.loses_of_cleared cleared]
  exact cleared

/-- Over a report from a dataset, whatever its ids are, take a page in any state that a run from
loading leads to, and switches in two orders.  Neither run fails, and both end with the same
filters, selection and candidates, the same history of the bar and the same remembered fragment.
A value ends up the other way round just if its switch is taken an odd number of times; location
and show flag stay; and the active mutant is cleared just if one of the switches is for its kind
group or for its status. -/
theorem switches_in_any_order {data : Json} {report : Report} {notes : List Note}
    (accepted : Report.ofJson data = .ok (report, notes)) (settings : SourceSettings)
    (bar : Option History) (steps : List Step) :
    ∃ view, (load report settings bar).run steps = .ok view ∧
      forall switches permuted : List Filters.Switch, switches.Perm permuted ->
        ∃ next other link, view.run (switches.map .switch) = .ok next ∧
          view.run (permuted.map .switch) = .ok other ∧
          next.viewer = other.viewer ∧ next.link = some link ∧ other.link = some link ∧
          (forall value, next.viewer.filters.excludes value =
            if Odd (switches.count value) then !view.viewer.filters.excludes value
            else view.viewer.filters.excludes value) ∧
          next.selection.location = view.selection.location ∧
          next.selection.shows = view.selection.shows ∧
          (forall mutant, view.selection.mutant = some mutant ->
            next.selection.mutant =
              if Filters.Concern switches mutant then none else some mutant) ∧
          (view.selection.mutant = none -> next.selection.mutant = none) := by
  have coherent := Report.coherent_of_ofJson accepted
  rcases exists_run_history coherent settings bar steps
    with ⟨view, history, ran, reportEq, consistent, shown⟩
  have coherentHere : view.viewer.report.Coherent := reportEq.symm ▸ coherent
  refine ⟨view, ran, ?_⟩
  intro switches permuted perm
  rcases exists_run_switches coherentHere consistent switches with ⟨next, ranNext, switchedBy⟩
  rcases exists_run_switches coherentHere consistent permuted with ⟨other, ranOther, permutedBy⟩
  rcases switchedBy.same_of_perm perm permutedBy with ⟨viewerEq, linkEq⟩
  have linked : next.link.isSome := by
    rcases Option.map_eq_some_iff.mp shown with ⟨link, linked, -⟩
    rw [switchedBy.link_eq, linked]
    split <;> rfl
  rcases Option.isSome_iff_exists.mp linked with ⟨link, linked⟩
  refine ⟨next, other, link, ranNext, ranOther, viewerEq, linked, linkEq.symm.trans linked, ?_,
    ?_, ?_, fun _ => switchedBy.mutant_of_active, switchedBy.mutant_of_none⟩
  · intro value
    rw [switchedBy.viewer_eq]
    exact view.viewer.filters.excludes_toggleAll switches value
  · rw [selection, switchedBy.viewer_eq]
    rfl
  · rw [selection, switchedBy.viewer_eq]
    rfl

/-- On the small report: the status of the active mutant is excluded and included again, before
and after a kind group is excluded.  The mutant is cleared in both orders. -/
theorem switches_in_any_order_on_sample :
    Report.ofJson Report.sampleData = .ok (Report.sample, []) ∧
      [Filters.Switch.status "killed", .kindGroup "ror", .status "killed"].Perm
        [.kindGroup "ror", .status "killed", .status "killed"] ∧
      ∃ view next other, (load Report.sample .standard none).run [.jumpTo "M2"] = .ok view ∧
        view.selection.mutant.map Mutant.id = some "M2" ∧
        view.run ([.status "killed", .kindGroup "ror", .status "killed"].map .switch) =
          .ok next ∧
        view.run ([.kindGroup "ror", .status "killed", .status "killed"].map .switch) =
          .ok other ∧
        next.viewer = other.viewer ∧ next.link = other.link ∧ next.selection.mutant = none ∧
        next.viewer.filters.excludes (.status "killed") = false ∧
        next.viewer.filters.excludes (.kindGroup "ror") = true := by
  have perm : [Filters.Switch.status "killed", .kindGroup "ror", .status "killed"].Perm
      [.kindGroup "ror", .status "killed", .status "killed"] := by
    decide
  refine ⟨Report.sample_accepted, perm, ?_⟩
  rcases switches_in_any_order Report.sample_accepted .standard none [.jumpTo "M2"]
    with ⟨view, ran, each⟩
  rcases each _ _ perm with ⟨next, other, link, ranNext, ranOther, viewerEq, linked, otherLinked,
    excluded, -, -, cleared, -⟩
  have reached : ((load Report.sample .standard none).run [.jumpTo "M2"]).toOption.map
      (fun view => (view.selection.mutant, view.viewer.filters.excludes (.status "killed"),
        view.viewer.filters.excludes (.kindGroup "ror"))) =
      some (some (Report.sampleMutant "M2" "killed" "aor"), false, false) := by
    decide +kernel
  rw [ran] at reached
  simp only [Except.toOption, Option.map_some, Option.some.injEq, Prod.mk.injEq] at reached
  rcases reached with ⟨active, killedShown, rorShown⟩
  refine ⟨view, next, other, ran, by rw [active]; rfl, ranNext, ranOther, viewerEq,
    linked.trans otherLinked.symm, ?_, ?_, ?_⟩
  · exact (cleared _ active).trans (if_pos (by decide))
  · rw [excluded, killedShown]
    decide
  · rw [excluded, rorShown]
    decide

end SourceView
end MutationViewer
