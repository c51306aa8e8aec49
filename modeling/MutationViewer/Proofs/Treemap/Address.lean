import MutationViewer.Proofs.Treemap.Trail
import MutationViewer.Treemap.View

/-!
# The folder on show and the address

The treemap goes to the folder that its bar names, and stays at the root if the
bar names none.  The bar's fragment is brought into its kept form twice on the
way: once when the view takes notice of it, and once more when the address is
read.  A fragment that begins with several marks loses one of them each time, so
the folder on show is the one of the fragment kept twice.  The two agree unless
the second time uncovers the address of a folder below the root.
-/

namespace MutationViewer
namespace TreemapView

/-- The view shows what the fragment is the address of: its own address is the
fragment, or the root is on show and the fragment is no folder's address. -/
def Shows (view : TreemapView) (fragment : String) : Prop :=
  view.address = fragment ∨
    view.trail.current = view.trail.root ∧ forall path, view.trail.root.HasFolder path ->
      view.settings.format.write path ≠ fragment

/-- The view is one of the tree, and its trail is sound. -/
structure Placed (settings : TreemapSettings) (root : Tree) (view : TreemapView) : Prop where
  settings_eq : view.settings = settings
  root_eq : view.trail.root = root
  sound : view.trail.Sound

variable {settings : TreemapSettings} {root : Tree} {view : TreemapView}

theorem placed_ofTree (settings : TreemapSettings) (bar : Option History) (root : Tree) :
    Placed settings root (ofTree settings bar root) :=
  ⟨rfl, rfl, .here root⟩

/-- A view with the same settings and the same trail is placed too, whatever it has
painted or noted. -/
theorem Placed.congr (placed : Placed settings root view) {other : TreemapView}
    (settingsEq : other.settings = view.settings) (trailEq : other.trail = view.trail) :
    Placed settings root other where
  settings_eq := settingsEq.trans placed.settings_eq
  root_eq := (congrArg Trail.root trailEq).trans placed.root_eq
  sound := trailEq ▸ placed.sound

theorem Placed.visit (placed : Placed settings root view) {trail : Trail}
    (rootEq : trail.root = view.trail.root) (sound : trail.Sound) :
    Placed settings root (view.visit trail) where
  settings_eq := placed.settings_eq
  root_eq := rootEq.trans placed.root_eq
  sound := sound

/-- Take steps one after the other; a step that fails is followed by the next. -/
def run (view : TreemapView) (steps : List Step) : TreemapView :=
  steps.foldl (fun view step => (view.step step).view) view

/-! ## Rebuilding -/

/-- What rebuilding comes to: the address is on show already, or nothing can be read
from the fragment, or what is read is followed. -/
inductive Rebuilt (view : TreemapView) (raw : Option String) (after : TreemapView) : Prop where
  | kept (same : Fragment.ofOption raw = view.address) (unchanged : after = view)
  | lost (trailEq : after.trail = .atRoot view.trail.root)
      (unread : forall path, view.trail.root.locate view.settings.format
        (some (Fragment.ofOption raw)) ≠ .ok (some path))
  | found (path : List String) (trailEq : after.trail = (Trail.atRoot view.trail.root).follow path)
      (read : view.trail.root.locate view.settings.format
        (some (Fragment.ofOption raw)) = .ok (some path))

theorem rebuilt (view : TreemapView) (raw : Option String) :
    view.Rebuilt raw (view.rebuild raw).view := by
  unfold rebuild
  dsimp only
  split
  · next same => exact .kept same rfl
  · split
    · next fault located => exact .lost rfl (by simp [located])
    · next located => exact .lost rfl (by simp [located])
    · next path located => exact .found path rfl located

theorem frame_rebuild (view : TreemapView) (raw : Option String) :
    (view.rebuild raw).view.settings = view.settings ∧ (view.rebuild raw).view.bar = view.bar := by
  unfold rebuild
  dsimp only
  split
  · exact ⟨rfl, rfl⟩
  · split <;> exact ⟨rfl, rfl⟩

theorem Placed.rebuild (placed : Placed settings root view) (raw : Option String) :
    Placed settings root (view.rebuild raw).view := by
  have settingsEq := (view.frame_rebuild raw).1
  cases view.rebuilt raw with
  | kept same unchanged => rw [unchanged]; exact placed
  | lost trailEq unread =>
      refine ⟨settingsEq.trans placed.settings_eq, ?_, ?_⟩
      · rw [trailEq]
        exact placed.root_eq
      · rw [trailEq]
        exact .here _
  | found path trailEq read =>
      rcases Trail.follow_located read with ⟨rootEq, -, sound⟩
      refine ⟨settingsEq.trans placed.settings_eq, ?_, ?_⟩
      · rw [trailEq]
        exact rootEq.trans placed.root_eq
      · rw [trailEq]
        exact sound

/-- The format is one whose addresses the bar does not change. -/
def Kept (settings : TreemapSettings) (root : Tree) : Prop :=
  forall path, root.HasFolder path ->
    Fragment.normalize (settings.format.write path) = settings.format.write path

theorem Placed.normalize_address (placed : Placed settings root view)
    (kept : Kept settings root) : Fragment.normalize view.address = view.address := by
  rw [address, Trail.address, placed.settings_eq]
  exact kept _ (placed.root_eq ▸ placed.sound.hasFolder)

/-- After rebuilding, the view shows what the fragment is the address of when it is
brought into its kept form twice. -/
theorem Placed.shows_rebuild (placed : Placed settings root view) {mark : Char}
    (separated : settings.format.separator = String.singleton mark) (kept : Kept settings root)
    (raw : Option String) :
    (view.rebuild raw).view.Shows (Fragment.normalize (Fragment.ofOption raw)) := by
  have settingsEq := (view.frame_rebuild raw).1
  cases view.rebuilt raw with
  | kept same unchanged =>
      rw [unchanged, same, placed.normalize_address kept]
      exact .inl rfl
  | lost trailEq unread =>
      refine .inr ⟨by rw [trailEq]; rfl, ?_⟩
      intro path folders same
      rw [trailEq] at folders
      rw [settingsEq] at same
      rcases Tree.exists_locateNormal_write (placed.settings_eq ▸ separated) folders
        with ⟨read, located⟩
      rw [same] at located
      exact unread read located
  | found path trailEq read =>
      refine .inl ?_
      rw [address, Trail.address, trailEq, (Trail.follow_located read).2.1, settingsEq]
      exact (Tree.locateNormal_sound read).2

def Outcome.Answers {Value : Type} (outcome : Outcome Value) : Prop :=
  ∃ value, outcome.result = .ok value

theorem Outcome.Answers.andThen {First Second : Type} {outcome : Outcome First}
    (answers : outcome.Answers) {next : TreemapView -> First -> Outcome Second}
    (goesOn : forall after value, (next after value).Answers) :
    (outcome.andThen next).Answers := by
  rcases answers with ⟨value, answered⟩
  unfold Outcome.andThen
  rw [answered]
  exact goesOn outcome.view value

/-- Rebuilding fails only where the address would have to be cut.  The fragment is brought into its
kept form once more before it is read, so it is the form after that which must go on behind the
root marker. -/
theorem not_answers_rebuild_iff {raw : Option String} :
    ¬ (view.rebuild raw).Answers ↔
      view.settings.format.separator = "" ∧ Fragment.ofOption raw ≠ view.address ∧
        view.settings.format.GoesOn (Fragment.normalize (Fragment.ofOption raw)) := by
  have reads := @Tree.exists_fault_iff view.settings.format view.trail.root
    (Fragment.normalize (Fragment.ofOption raw))
  unfold rebuild
  dsimp only
  by_cases own : Fragment.ofOption raw = view.address
  · rw [if_pos own]
    exact ⟨fun fails => absurd ⟨_, rfl⟩ fails, fun ⟨_, other, _⟩ => absurd own other⟩
  · rw [if_neg own, Tree.locate, Fragment.ofOption_some]
    cases located : Tree.locateNormal view.settings.format view.trail.root
      (Fragment.normalize (Fragment.ofOption raw)) with
    | error fault =>
        rcases reads.mp ⟨fault, located⟩ with ⟨unseparated, goesOn⟩
        refine ⟨fun _ => ⟨unseparated, own, goesOn⟩, fun _ => ?_⟩
        rintro ⟨value, answered⟩
        cases answered
    | ok found =>
        constructor
        · intro fails
          cases found <;> exact absurd ⟨_, rfl⟩ fails
        · rintro ⟨unseparated, -, goesOn⟩
          rcases reads.mpr ⟨unseparated, goesOn⟩ with ⟨fault, failed⟩
          rw [located] at failed
          cases failed

section

variable (separated : view.settings.format.separator ≠ "")

include separated

theorem answers_rebuild (raw : Option String) : (view.rebuild raw).Answers :=
  Classical.byContradiction fun fails => separated (not_answers_rebuild_iff.mp fails).1

theorem answers_hear (history : History) : (view.hear history).Answers := by
  have relinked : ({ view with bar := some history } : TreemapView).settings.format.separator ≠
      "" := separated
  exact (answers_rebuild relinked _).andThen fun _ _ => ⟨_, rfl⟩

theorem answers_move (trail : Trail) : (view.move trail).Answers := by
  have visited : (view.visit trail).settings.format.separator ≠ "" := separated
  apply Outcome.Answers.andThen
  · unfold publish
    split
    · exact answers_hear visited _
    · exact ⟨_, rfl⟩
  · exact fun _ _ => ⟨_, rfl⟩

theorem answers_step (step : Step) : (view.step step).Answers := by
  cases step with
  | start =>
      change view.start.Answers
      unfold TreemapView.start
      split
      · split
        · exact ⟨_, rfl⟩
        · exact (answers_rebuild separated _).andThen fun _ _ => ⟨_, rfl⟩
      · exact ⟨_, rfl⟩
  | enter name =>
      change (view.enter name).Answers
      unfold TreemapView.enter
      split
      · exact ⟨_, rfl⟩
      · split
        · exact answers_move separated _
        · exact ⟨_, rfl⟩
  | leave =>
      change view.leave.Answers
      unfold TreemapView.leave
      split
      · exact answers_move separated _
      · exact ⟨_, rfl⟩
  | rebuild raw =>
      unfold TreemapView.step
      exact (answers_rebuild separated raw).andThen fun _ _ => ⟨_, rfl⟩
  | bar use =>
      change (view.useBar use).Answers
      unfold TreemapView.useBar
      split
      · exact ⟨_, rfl⟩
      · dsimp only
        split
        · exact (answers_hear separated _).andThen fun _ _ => ⟨_, rfl⟩
        · exact ⟨_, rfl⟩

end

/-! ## What a step comes to -/

/-- The two views differ at most in what they have painted and noted. -/
structure Alike (view other : TreemapView) : Prop where
  settings_eq : other.settings = view.settings
  trail_eq : other.trail = view.trail
  bar_eq : other.bar = view.bar

theorem frame_andThen_ok {First Second : Type} (outcome : Outcome First)
    (next : TreemapView -> First -> Second) :
    (outcome.andThen fun after value => ⟨after, .ok (next after value)⟩).view = outcome.view := by
  unfold Outcome.andThen
  split <;> rfl

/-- What opening a child, leaving a folder and using the bar come to: the same folder stays on
show, another one is put there, or a change of the bar is heard. -/
inductive Goes (view : TreemapView) : TreemapView -> Prop where
  | stays {after : TreemapView} (alike : view.Alike after) : Goes view after
  | moves {trail : Trail} (rootEq : trail.root = view.trail.root)
      (sound : view.trail.Sound -> trail.Sound) : Goes view (view.move trail).view
  | hears (history : History) : Goes view (view.hear history).view

theorem goes_enter (view : TreemapView) (name : String) : view.Goes (view.enter name).view := by
  unfold TreemapView.enter
  split
  · exact .stays ⟨rfl, rfl, rfl⟩
  · next child found =>
      split
      · next folder =>
          exact .moves rfl fun sound =>
            sound.enter (Option.filter_eq_some_iff.mpr ⟨found, folder⟩)
      · exact .stays ⟨rfl, rfl, rfl⟩

theorem goes_leave (view : TreemapView) : view.Goes view.leave.view := by
  unfold TreemapView.leave
  split
  · next trail back =>
      have rootEq : trail.root = view.trail.root := by
        rcases Option.map_eq_some_iff.mp back with ⟨crumb, -, rfl⟩
        rfl
      exact .moves rootEq fun sound => (sound.leave back).2
  · exact .stays ⟨rfl, rfl, rfl⟩

theorem goes_useBar (view : TreemapView) (use : History.Step) :
    view.Goes (view.useBar use).view := by
  unfold TreemapView.useBar
  split
  · exact .stays ⟨rfl, rfl, rfl⟩
  · dsimp only
    split
    · rw [frame_andThen_ok]
      exact .hears _
    · exact .stays ⟨rfl, rfl, rfl⟩

/-- What starting comes to: the folder stays on show if the bar names nothing, and else the
state is rebuilt from its fragment. -/
inductive Starts (view : TreemapView) : TreemapView -> Prop where
  | stays {after : TreemapView} (alike : view.Alike after)
      (empty : forall history, view.bar = some history -> history.fragment = "") :
      Starts view after
  | rebuilds (history : History) (linked : view.bar = some history) {after : TreemapView}
      (alike : (view.rebuild (some history.fragment)).view.Alike after) : Starts view after

theorem starts_start (view : TreemapView) : view.Starts view.start.view := by
  unfold TreemapView.start
  split
  · next history linked =>
      split
      · next empty =>
          refine .stays ⟨rfl, rfl, rfl⟩ fun other found => ?_
          rw [linked] at found
          cases found
          exact empty
      · refine .rebuilds history linked ?_
        generalize view.rebuild (some history.fragment) = outcome
        rcases outcome with ⟨started, result⟩
        cases result with
        | ok rebuilt => cases rebuilt <;> exact ⟨rfl, rfl, rfl⟩
        | error => exact ⟨rfl, rfl, rfl⟩
  · next unlinked =>
      refine .stays ⟨rfl, rfl, rfl⟩ fun other found => ?_
      rw [unlinked] at found
      cases found

/-- There is a bar, and the view shows what its fragment is the address of when it
is brought into its kept form twice. -/
structure Settled (settings : TreemapSettings) (root : Tree) (view : TreemapView) : Prop
    extends Placed settings root view where
  shown : ∃ history, view.bar = some history ∧
    view.Shows (Fragment.normalize (Fragment.normalize history.fragment))

theorem Shows.congr {fragment : String} (shows : view.Shows fragment) {other : TreemapView}
    (settingsEq : other.settings = view.settings) (trailEq : other.trail = view.trail) :
    other.Shows fragment := by
  rw [Shows, address, settingsEq, trailEq]
  exact shows

theorem Settled.congr (settled : Settled settings root view) {other : TreemapView}
    (alike : view.Alike other) : Settled settings root other := by
  rcases settled.shown with ⟨history, linked, shows⟩
  exact {
    toPlaced := settled.toPlaced.congr alike.settings_eq alike.trail_eq
    shown := ⟨history, alike.bar_eq.trans linked,
      shows.congr alike.settings_eq alike.trail_eq⟩ }

/-- Hearing of a change is rebuilding, as far as trail and bar go. -/
theorem frame_hear (view : TreemapView) (history : History) :
    (view.hear history).view.settings = view.settings ∧
      (view.hear history).view.bar = some history ∧
      (view.hear history).view.trail = (({ view with bar := some history } : TreemapView).rebuild
        (some history.fragment)).view.trail := by
  have frame := ({ view with bar := some history } : TreemapView).frame_rebuild
    (some history.fragment)
  unfold hear
  generalize ({ view with bar := some history } : TreemapView).rebuild
    (some history.fragment) = outcome at frame ⊢
  rcases outcome with ⟨heard, result⟩
  cases result with
  | ok => exact ⟨frame.1, frame.2, rfl⟩
  | error => exact ⟨frame.1, frame.2, rfl⟩

theorem Placed.placed_hear (placed : Placed settings root view) (history : History) :
    Placed settings root (view.hear history).view := by
  rcases view.frame_hear history with ⟨settingsEq, -, trailEq⟩
  have relinked : Placed settings root { view with bar := some history } := placed.congr rfl rfl
  have frame := ({ view with bar := some history } : TreemapView).frame_rebuild
    (some history.fragment)
  exact (relinked.rebuild (some history.fragment)).congr (settingsEq.trans frame.1.symm) trailEq

section

variable {mark : Char} (separated : settings.format.separator = String.singleton mark)
  (kept : Kept settings root)

include separated kept

theorem Placed.hear (placed : Placed settings root view) (history : History) :
    Settled settings root (view.hear history).view := by
  rcases view.frame_hear history with ⟨settingsEq, barEq, trailEq⟩
  have relinked : Placed settings root { view with bar := some history } :=
    placed.congr rfl rfl
  have frame := ({ view with bar := some history } : TreemapView).frame_rebuild
    (some history.fragment)
  exact {
    toPlaced := placed.placed_hear history
    shown := ⟨history, barEq, (relinked.shows_rebuild separated kept
      (some history.fragment)).congr (settingsEq.trans frame.1.symm) trailEq⟩ }

/-- Whatever folder is put on show, the bar shows its address afterwards. -/
theorem Placed.publish (placed : Placed settings root view) {history : History}
    (linked : view.bar = some history) : Settled settings root view.publish.view := by
  unfold TreemapView.publish
  cases wrote : history.write? view.address with
  | some written =>
      simp only [linked, Option.bind_some, wrote]
      exact placed.hear separated kept written
  | none =>
      simp only [linked, Option.bind_some, wrote]
      have shown := (History.write?_eq_none_iff _ _).mp wrote
      rw [placed.normalize_address kept] at shown
      refine { toPlaced := placed, shown := ⟨history, linked, .inl ?_⟩ }
      rw [← shown, placed.normalize_address kept, placed.normalize_address kept]

theorem Placed.move (placed : Placed settings root view) {history : History}
    (linked : view.bar = some history) {trail : Trail} (rootEq : trail.root = view.trail.root)
    (sound : trail.Sound) : Settled settings root (view.move trail).view := by
  rw [TreemapView.move, frame_andThen_ok]
  exact (placed.visit rootEq sound).publish separated kept linked

theorem Settled.of_goes (settled : Settled settings root view) {after : TreemapView}
    (goes : view.Goes after) : Settled settings root after := by
  rcases settled.shown with ⟨history, linked, -⟩
  cases goes with
  | stays alike => exact settled.congr alike
  | moves rootEq sound =>
      exact settled.toPlaced.move separated kept linked rootEq (sound settled.sound)
  | hears history => exact settled.toPlaced.hear separated kept history

/-- Starting goes where the bar points; an empty bar leaves the folder on show. -/
theorem Placed.start (placed : Placed settings root view) {history : History}
    (linked : view.bar = some history) (shows : history.fragment = "" -> view.Shows "") :
    Settled settings root view.start.view := by
  cases view.starts_start with
  | stays alike empty =>
      have here : Settled settings root view := {
        toPlaced := placed
        shown := ⟨history, linked, by
          rw [empty history linked]
          exact shows (empty history linked)⟩ }
      exact here.congr alike
  | rebuilds history linked alike =>
      have frame := view.frame_rebuild (some history.fragment)
      have there : Settled settings root (view.rebuild (some history.fragment)).view := {
        toPlaced := placed.rebuild (some history.fragment)
        shown := ⟨history, frame.2.trans linked,
          placed.shows_rebuild separated kept (some history.fragment)⟩ }
      exact there.congr alike

/-- Every step but a rebuilding one keeps bar and folder in step. -/
theorem Settled.step (settled : Settled settings root view) {step : Step}
    (drills : forall raw, step ≠ .rebuild raw) : Settled settings root (view.step step).view := by
  cases step with
  | start =>
      rcases settled.shown with ⟨history, linked, shows⟩
      apply settled.toPlaced.start separated kept linked
      intro empty
      rw [empty] at shows
      exact shows
  | enter name => exact settled.of_goes separated kept (view.goes_enter name)
  | leave => exact settled.of_goes separated kept view.goes_leave
  | rebuild raw => exact absurd rfl (drills raw)
  | bar use => exact settled.of_goes separated kept (view.goes_useBar use)

/-- So does every run of such steps. -/
theorem Settled.run (settled : Settled settings root view) {steps : List Step}
    (drills : ∀ step ∈ steps, forall raw, step ≠ .rebuild raw) :
    Settled settings root (view.run steps) := by
  induction steps generalizing view with
  | nil => exact settled
  | cons step steps ih =>
      have taken := settled.step separated kept (drills step List.mem_cons_self)
      exact ih taken fun other member => drills other (List.mem_cons_of_mem _ member)

theorem settled_load (history : History) :
    Settled settings root (load settings (some history) root).view := by
  apply (placed_ofTree settings (some history) root).start separated kept rfl
  intro _
  by_cases marker : settings.format.rootMarker = ""
  · exact .inl (AddressFormat.write_nil.trans marker)
  · refine .inr ⟨rfl, ?_⟩
    intro path _ written
    exact marker (AddressFormat.rootMarker_of_write_empty written)

end

/-- The folder on show is the one of the fragment kept once if the second time does
nothing or does not uncover the address of a folder below the root. -/
theorem Placed.shows_iff (placed : Placed settings root view)
    (separated : settings.format.separator ≠ "") (kept : Kept settings root) {fragment : String}
    (shows : view.Shows (Fragment.normalize fragment)) :
    view.Shows fragment ↔ Fragment.normalize fragment = fragment ∨
      forall path, root.HasFolder path -> path ≠ [] ->
        settings.format.write path ≠ Fragment.normalize fragment := by
  have rootEq := placed.root_eq
  have settingsEq := placed.settings_eq
  subst rootEq settingsEq
  have ownFolder := placed.sound.hasFolder
  have rooted := placed.sound.current_eq_root_iff
  constructor
  · rintro (own | ⟨atRoot, -⟩)
    · left
      rw [← own]
      exact placed.normalize_address kept
    · right
      intro path folders below written
      rcases shows with own | ⟨-, unaddressed⟩
      · rw [address, Trail.address, rooted.mp atRoot, AddressFormat.write_nil] at own
        exact AddressFormat.write_ne_rootMarker separated below (written.trans own.symm)
      · exact unaddressed path folders written
  · rintro (same | uncovers)
    · rwa [same] at shows
    · by_cases same : Fragment.normalize fragment = fragment
      · rwa [same] at shows
      · refine .inr ⟨?_, ?_⟩
        · rcases shows with own | ⟨atRoot, -⟩
          · apply rooted.mpr
            by_cases ended : view.trail.path = []
            · exact ended
            · exact absurd own (uncovers _ ownFolder ended)
          · exact atRoot
        · intro path folders written
          apply same
          rw [← written]
          exact kept path folders

/-- Take any tree, a format with a separator of one character whose folder addresses
the bar does not change, any bar, and any run of entering, leaving and uses of the
bar after loading.  The view shows what the bar's fragment is the address of when it
is brought into its kept form twice.  What it is the address of when that is done
once is on show exactly if the second time changes nothing or does not uncover the
address of a folder below the root.  No step fails on the way. -/
theorem folder_agrees_with_bar_iff {mark : Char}
    (separated : settings.format.separator = String.singleton mark) (kept : Kept settings root)
    (initial : History) {steps : List Step}
    (drills : ∀ step ∈ steps, forall raw, step ≠ .rebuild raw) :
    ∃ view history, (load settings (some initial) root).view.run steps = view ∧
      view.settings = settings ∧ view.trail.root = root ∧ view.bar = some history ∧
      view.Shows (Fragment.normalize (Fragment.normalize history.fragment)) ∧
      (view.Shows (Fragment.normalize history.fragment) ↔
        Fragment.normalize (Fragment.normalize history.fragment) =
            Fragment.normalize history.fragment ∨
          forall path, root.HasFolder path -> path ≠ [] ->
            settings.format.write path ≠
              Fragment.normalize (Fragment.normalize history.fragment)) ∧
      forall step, (view.step step).Answers := by
  have nonempty : settings.format.separator ≠ "" := by simp [separated]
  have settled := (settled_load separated kept initial).run separated kept drills
  rcases settled.shown with ⟨history, linked, shows⟩
  refine ⟨_, history, rfl, settled.settings_eq, settled.root_eq, linked, shows,
    settled.toPlaced.shows_iff nonempty kept shows, ?_⟩
  intro step
  exact answers_step (settled.settings_eq.symm ▸ nonempty) step

/-! ## A tree with one folder below the root -/

/-- A root with one empty folder. -/
def sampleTree : Tree :=
  .folder ⟨"root", none, none⟩ [.folder ⟨"src", none, none⟩ []]

theorem path_of_sampleTree {path : List String} (folders : sampleTree.HasFolder path) :
    path = [] ∨ path = ["src"] := by
  cases path with
  | nil => exact .inl rfl
  | cons name path =>
      rcases Tree.hasFolder_cons_iff.mp folders with ⟨child, found, below⟩
      have member := List.mem_of_find?_eq_some (Option.filter_eq_some_iff.mp found).1
      have named := Tree.folder?_name found
      simp only [sampleTree, Tree.children, List.mem_singleton] at member
      subst member
      cases path with
      | nil => exact .inr (by rw [← named]; rfl)
      | cons next path =>
          rcases Tree.hasFolder_cons_iff.mp below with ⟨grandchild, missing, -⟩
          cases missing

theorem kept_sampleTree : Kept .standard sampleTree := by
  intro path folders
  rcases path_of_sampleTree folders with rfl | rfl <;> decide +kernel

theorem standard_separated :
    TreemapSettings.standard.format.separator = String.singleton '_' := rfl

theorem folder_agrees_with_bar_on_sample :
    TreemapSettings.standard.format.separator = String.singleton '_' ∧
      Kept .standard sampleTree ∧
      ∃ view history, (load .standard (some (.ofFragment "#root_src")) sampleTree).view.run
          [.leave, .enter "src", .bar .back, .bar .back] = view ∧
        view.bar = some history ∧ history.fragment = "root_src" ∧ view.Shows "root_src" := by
  refine ⟨rfl, kept_sampleTree, ?_⟩
  have drills : ∀ step ∈ [Step.leave, .enter "src", .bar .back, .bar .back],
      forall raw, step ≠ .rebuild raw := by simp
  rcases folder_agrees_with_bar_iff standard_separated kept_sampleTree (.ofFragment "#root_src")
    drills with ⟨view, history, ran, -, -, linked, -, agrees, -⟩
  have fragment : ((load .standard (some (.ofFragment "#root_src")) sampleTree).view.run
      [.leave, .enter "src", .bar .back, .bar .back]).bar.map History.fragment =
      some "root_src" := by
    decide +kernel
  rw [ran, linked, Option.map_some, Option.some.injEq] at fragment
  have shown := agrees.mpr (.inl (by rw [fragment]; decide +kernel))
  rw [fragment] at shown
  exact ⟨view, history, ran, linked, fragment, shown⟩

/-- Three marks before an address: the bar keeps two of them, taking notice of it
drops the second and reading it the third, so a folder is on show although the
fragment, once in its kept form, is not its address. -/
theorem doubled_mark_uncovers_folder :
    TreemapSettings.standard.format.separator = String.singleton '_' ∧
      Kept .standard sampleTree ∧
      ∃ history, (load .standard (some (.ofFragment "###root_src")) sampleTree).view.bar =
          some history ∧
        ¬ (load .standard (some (.ofFragment "###root_src")) sampleTree).view.Shows
          (Fragment.normalize history.fragment) := by
  refine ⟨rfl, kept_sampleTree, ?_⟩
  rcases settled_load standard_separated kept_sampleTree (.ofFragment "###root_src") with
    ⟨placed, history, linked, shows⟩
  have fragment : (load .standard (some (.ofFragment "###root_src")) sampleTree).view.bar.map
      History.fragment = some "##root_src" := by
    decide +kernel
  rw [linked, Option.map_some, Option.some.injEq] at fragment
  refine ⟨history, linked, ?_⟩
  rw [placed.shows_iff (by decide) kept_sampleTree shows, fragment]
  rintro (same | uncovers)
  · revert same
    decide +kernel
  · exact uncovers ["src"] rfl (by simp) (by decide +kernel)

end TreemapView
end MutationViewer
