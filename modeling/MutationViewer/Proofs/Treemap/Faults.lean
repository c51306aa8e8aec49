import MutationViewer.Proofs.Treemap.Drawing
import MutationViewer.Proofs.Treemap.Drilling

/-!
# Addresses that cannot be cut

Without a separator an address cannot be cut into names, and rebuilding fails where it would
have to.  By then it has already gone to the root, and nothing takes that back: the folders that
were left and the names that were entered are forgotten, and the root is not drawn.  A view that
shows a folder below the root therefore never comes through such a fault as it was, and what is
drawn is afterwards still the folder that it has left.  Only where the root was on show before
is there nothing to lose.
-/

namespace MutationViewer
namespace TreemapView

variable {settings : TreemapSettings} {root : Tree} {view : TreemapView} {raw : Option String}

/-- A fault comes after the way to the root and before anything is drawn or noted. -/
theorem rebuild_view_of_fails (fails : ¬ (view.rebuild raw).Answers) :
    (view.rebuild raw).view = { view with trail := .atRoot view.trail.root } := by
  have redraws := view.redraws_rebuild raw
  generalize view.rebuild raw = outcome at fails redraws ⊢
  cases redraws with
  | same => exact absurd ⟨_, rfl⟩ fails
  | drawn drawn => exact absurd ⟨_, rfl⟩ fails
  | fault fault unseparated => rfl

/-- What was on show comes through a fault exactly if it was the root. -/
theorem Placed.restores_of_fails_iff (placed : Placed settings root view)
    (fails : ¬ (view.rebuild raw).Answers) :
    view.Restores (view.rebuild raw).view ↔ view.trail.path = [] := by
  rw [rebuild_view_of_fails fails]
  constructor
  · exact fun restores => restores.path_eq.symm
  · intro ended
    have atRoot := placed.sound.eq_atRoot ended
    exact ⟨by rw [← atRoot], by rw [← atRoot], by rw [← atRoot]⟩

/-- The folder that is drawn afterwards is still the one from before, so it is the one on show
only if that was the root. -/
theorem Placed.drawn_of_fails_iff (placed : Placed settings root view)
    (shown : view.DrawnOrLost) (fails : ¬ (view.rebuild raw).Answers) :
    (view.rebuild raw).view.Drawn ↔ view.trail.path = [] ∧ view.Drawn := by
  rw [rebuild_view_of_fails fails]
  constructor
  · intro drawnAfter
    have ended : view.trail.path = [] := by
      by_cases inside : view.trail.path = []
      · exact inside
      · have drawn := shown.drawn_of_path inside
        have same := Option.some.inj (drawn.last.symm.trans drawnAfter.last)
        exact placed.sound.current_eq_root_iff.mp (congrArg Drawing.folder same)
    rw [← placed.sound.eq_atRoot ended] at drawnAfter
    exact ⟨ended, drawnAfter⟩
  · rintro ⟨ended, drawn⟩
    rwa [← placed.sound.eq_atRoot ended]

/-- Take any tree, any settings, a bar or none, any run of steps, whether they fail or not, and
any fragment.  Rebuilding from it fails exactly if there is no separator, the fragment is not the
address on show, and brought into its kept form once more it goes on behind the root marker.  If
it does fail, the root is on show, with nothing left and nothing entered, and all else is as it
was: the folder, the stack and the path are the same as before exactly if the root was on show,
and the last drawing is of what is on show exactly if it was so before and that was the root. -/
theorem failed_rebuild_keeps_iff (settings : TreemapSettings) (bar : Option History) (root : Tree)
    (steps : List Step) (raw : Option String) :
    ∃ view, (ofTree settings bar root).run steps = view ∧
      (¬ (view.rebuild raw).Answers ↔
        settings.format.separator = "" ∧ Fragment.ofOption raw ≠ view.address ∧
          settings.format.GoesOn (Fragment.normalize (Fragment.ofOption raw))) ∧
      (¬ (view.rebuild raw).Answers ->
        (view.rebuild raw).view = { view with trail := .atRoot root } ∧
        (view.Restores (view.rebuild raw).view ↔ view.trail.path = []) ∧
        ((view.rebuild raw).view.Drawn ↔ view.trail.path = [] ∧ view.Drawn)) := by
  have placed := (placed_ofTree settings bar root).placed_run steps
  refine ⟨_, rfl, ?_, fun fails => ?_⟩
  · rw [not_answers_rebuild_iff, placed.settings_eq]
  · have unseparated := (not_answers_rebuild_iff.mp fails).1
    rw [placed.settings_eq] at unseparated
    -- Without a separator the view counts as lost from the beginning.
    have shown : (ofTree settings bar root).DrawnOrLost := .inr ⟨unseparated, rfl⟩
    refine ⟨?_, placed.restores_of_fails_iff fails,
      placed.drawn_of_fails_iff (shown.run steps) fails⟩
    rw [rebuild_view_of_fails fails, placed.root_eq]

/-- The standard settings, but with nothing between the names of an address. -/
def seamless : TreemapSettings :=
  { TreemapSettings.standard with format := ⟨"root", ""⟩ }

/-- A folder that has been entered and drawn is gone after an address that goes on behind the root
marker, and it is what is still drawn. -/
theorem fault_forgets_folder :
    ∃ view, (ofTree seamless none sampleTree).run [.start, .enter "src"] = view ∧
      view.Drawn ∧ view.trail.path = ["src"] ∧
      ¬ (view.rebuild (some "rootx")).Answers ∧
      ¬ view.Restores (view.rebuild (some "rootx")).view ∧
      ¬ (view.rebuild (some "rootx")).view.Drawn := by
  have placed := (placed_ofTree seamless none sampleTree).placed_run [.start, .enter "src"]
  have shown : ((ofTree seamless none sampleTree).run [.start, .enter "src"]).DrawnOrLost :=
    DrawnOrLost.run (.inr ⟨rfl, rfl⟩) _
  have path : ((ofTree seamless none sampleTree).run [.start, .enter "src"]).trail.path =
      ["src"] := by
    cbv
  generalize (ofTree seamless none sampleTree).run [.start, .enter "src"] = view
    at placed shown path
  have inside : view.trail.path ≠ [] := by simp [path]
  have fails : ¬ (view.rebuild (some "rootx")).Answers := by
    rw [not_answers_rebuild_iff, placed.settings_eq]
    refine ⟨rfl, ?_, "x", by decide, by decide +kernel⟩
    rw [address, Trail.address, placed.settings_eq, path]
    decide +kernel
  refine ⟨view, rfl, shown.drawn_of_path inside, path, fails, ?_, ?_⟩
  · rwa [placed.restores_of_fails_iff fails]
  · rw [placed.drawn_of_fails_iff shown fails]
    exact fun ended => inside ended.1

end TreemapView
end MutationViewer
