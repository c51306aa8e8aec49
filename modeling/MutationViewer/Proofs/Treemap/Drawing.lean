import MutationViewer.Proofs.Treemap.Stack

/-!
# The folder on the screen

A folder that is entered or left is drawn before its address is written; the bar then calls
back, and the state may be rebuilt and drawn once more, or be left alone.  Starting draws in
one of two places, and in which of them depends on whether the state had to be rebuilt.  None
of these ways ends with a folder on show that has not been drawn since it was put there: the
last drawing is always the one of the trail.  Only a fault between going to the root and reading
the address leaves the root undrawn, and there is none where the format has a separator.
-/

namespace MutationViewer

/-- One drawing of the treemap: a folder, tiles and a title. -/
structure Drawing where
  folder : Tree
  tiles : List Tile
  title : String

/-- The drawing that a command asks for, if it asks for one. -/
def Paint.drawing? : Paint -> Option Drawing
  | .treemap folder tiles title => some ⟨folder, tiles, title⟩
  | _ => none

/-- The folder on show, the tiles of its children and the title of the way to it. -/
def Trail.drawing (trail : Trail) : Drawing where
  folder := trail.current
  tiles := trail.tiles
  title := trail.title

namespace TreemapView

def drawings (view : TreemapView) : List Drawing :=
  view.effects.filterMap fun effect => effect.paint?.bind Paint.drawing?

/-- The last drawing is the one of the trail, and the screen still shows it. -/
structure Drawn (view : TreemapView) : Prop where
  last : view.drawings.getLast? = some view.trail.drawing
  title_eq : view.screen.title = view.trail.title
  tiles_eq : view.screen.tiles = view.trail.tiles

variable {view : TreemapView}

theorem drawings_of_effects {other : TreemapView} {effect : TreemapEffect}
    (effectsEq : other.effects = view.effects ++ [effect]) :
    other.drawings = view.drawings ++ (effect.paint?.bind Paint.drawing?).toList := by
  rw [drawings, effectsEq, List.filterMap_append, drawings]
  cases drawing : effect.paint?.bind Paint.drawing? <;> simp [drawing]

/-- Drawing brings the screen up to date, whatever was on it before. -/
theorem drawn_draw (view : TreemapView) : view.draw.Drawn where
  last := by
    rw [drawings_of_effects (rfl : view.draw.effects = view.effects ++ [_])]
    exact List.getLast?_concat
  title_eq := rfl
  tiles_eq := rfl

theorem Drawn.of_effect (drawn : view.Drawn) {other : TreemapView} {effect : TreemapEffect}
    (effectsEq : other.effects = view.effects ++ [effect])
    (undrawn : effect.paint?.bind Paint.drawing? = none) (trailEq : other.trail = view.trail)
    (titleEq : other.screen.title = view.screen.title)
    (tilesEq : other.screen.tiles = view.screen.tiles) : other.Drawn where
  last := by
    rw [drawings_of_effects effectsEq, undrawn, trailEq]
    simpa using drawn.last
  title_eq := by rw [titleEq, trailEq, drawn.title_eq]
  tiles_eq := by rw [tilesEq, trailEq, drawn.tiles_eq]

/-- The root is on show after a fault, for want of a separator. -/
structure Lost (view : TreemapView) : Prop where
  unseparated : view.settings.format.separator = ""
  trail_eq : view.trail = .atRoot view.trail.root

theorem Lost.congr (lost : view.Lost) {other : TreemapView}
    (settingsEq : other.settings = view.settings) (trailEq : other.trail = view.trail) :
    other.Lost where
  unseparated := by rw [settingsEq, lost.unseparated]
  trail_eq := by rw [trailEq, ← lost.trail_eq]

/-- The last drawing is the one of the trail, unless a fault has led to the root. -/
def DrawnOrLost (view : TreemapView) : Prop :=
  view.Drawn ∨ view.Lost

/-- There are no faults where the format has a separator. -/
theorem DrawnOrLost.drawn (shown : view.DrawnOrLost)
    (separated : view.settings.format.separator ≠ "") : view.Drawn :=
  shown.resolve_right fun lost => separated lost.unseparated

/-- Only the root is on show without having been drawn. -/
theorem DrawnOrLost.drawn_of_path (shown : view.DrawnOrLost) (inside : view.trail.path ≠ []) :
    view.Drawn := by
  refine shown.resolve_right fun lost => inside ?_
  rw [lost.trail_eq]
  rfl

theorem DrawnOrLost.of_effect (shown : view.DrawnOrLost) {other : TreemapView}
    {effect : TreemapEffect} (effectsEq : other.effects = view.effects ++ [effect])
    (undrawn : effect.paint?.bind Paint.drawing? = none)
    (settingsEq : other.settings = view.settings) (trailEq : other.trail = view.trail)
    (titleEq : other.screen.title = view.screen.title)
    (tilesEq : other.screen.tiles = view.screen.tiles) : other.DrawnOrLost :=
  shown.imp (fun drawn => drawn.of_effect effectsEq undrawn trailEq titleEq tilesEq)
    fun lost => lost.congr settingsEq trailEq

theorem DrawnOrLost.withBar (shown : view.DrawnOrLost) (history : History) :
    ({ view with bar := some history } : TreemapView).DrawnOrLost :=
  shown.imp (fun drawn => ⟨drawn.last, drawn.title_eq, drawn.tiles_eq⟩)
    fun lost => lost.congr rfl rfl

theorem DrawnOrLost.openUrl (shown : view.DrawnOrLost) (url : String) :
    (view.openUrl url).view.DrawnOrLost :=
  shown.of_effect rfl rfl rfl rfl rfl rfl

/-! ## Every change is followed by a drawing -/

/-- What rebuilding comes to: it does nothing and says so, or it ends with a drawing, or it goes
to the root and finds nothing to cut the address at. -/
inductive Redraws (view : TreemapView) : Outcome Bool -> Prop where
  | same : Redraws view ⟨view, .ok false⟩
  | drawn {after : TreemapView} (drawn : after.Drawn) : Redraws view ⟨after, .ok true⟩
  | fault (fault : AddressFault) (unseparated : view.settings.format.separator = "") :
      Redraws view ⟨{ view with trail := .atRoot view.trail.root }, .error fault⟩

theorem redraws_rebuild (view : TreemapView) (raw : Option String) :
    view.Redraws (view.rebuild raw) := by
  unfold rebuild
  dsimp only
  split
  · exact .same
  · split
    · next fault located => exact .fault fault (Tree.exists_fault_iff.mp ⟨fault, located⟩).1
    · exact .drawn (drawn_draw _)
    · exact .drawn (drawn_draw _)

theorem DrawnOrLost.rebuild (shown : view.DrawnOrLost) (raw : Option String) :
    (view.rebuild raw).view.DrawnOrLost := by
  have redraws := view.redraws_rebuild raw
  generalize view.rebuild raw = outcome at redraws ⊢
  cases redraws with
  | same => exact shown
  | drawn drawn => exact .inl drawn
  | fault fault unseparated => exact .inr ⟨unseparated, rfl⟩

theorem DrawnOrLost.hear (shown : view.DrawnOrLost) (history : History) :
    (view.hear history).view.DrawnOrLost := by
  have rebuilt := (shown.withBar history).rebuild (some history.fragment)
  unfold TreemapView.hear
  -- With the outcome opaque, nothing tries to compute what the address leads to.
  generalize ({ view with bar := some history } : TreemapView).rebuild
    (some history.fragment) = outcome at rebuilt ⊢
  rcases outcome with ⟨heard, result⟩
  cases result with
  | ok answer => exact rebuilt.of_effect rfl rfl rfl rfl rfl rfl
  | error fault => exact rebuilt

/-- A folder that is put on show is drawn at once, and stays drawn when the bar calls back. -/
theorem drawnOrLost_move (view : TreemapView) (trail : Trail) :
    (view.move trail).view.DrawnOrLost := by
  have visited : (view.visit trail).DrawnOrLost := .inl (drawn_draw _)
  rw [move, frame_andThen_ok]
  unfold publish
  split
  · exact visited.hear _
  · exact visited

theorem drawnOrLost_start (view : TreemapView) : view.start.view.DrawnOrLost := by
  unfold start
  split
  · next history linked =>
      split
      · exact .inl (drawn_draw view)
      · have redraws := view.redraws_rebuild (some history.fragment)
        generalize view.rebuild (some history.fragment) = outcome at redraws ⊢
        cases redraws with
        | same => exact .inl (drawn_draw view)
        | drawn drawn => exact .inl drawn
        | fault fault unseparated => exact .inr ⟨unseparated, rfl⟩
  · exact .inl (drawn_draw view)

theorem DrawnOrLost.enter (shown : view.DrawnOrLost) (name : String) :
    (view.enter name).view.DrawnOrLost := by
  unfold TreemapView.enter
  split
  · exact shown.of_effect rfl rfl rfl rfl rfl rfl
  · split
    · exact view.drawnOrLost_move _
    · exact shown.openUrl _

theorem DrawnOrLost.leave (shown : view.DrawnOrLost) : view.leave.view.DrawnOrLost := by
  unfold TreemapView.leave
  split
  · exact view.drawnOrLost_move _
  · exact shown.openUrl _

theorem DrawnOrLost.useBar (shown : view.DrawnOrLost) (use : History.Step) :
    (view.useBar use).view.DrawnOrLost := by
  unfold TreemapView.useBar
  split
  · exact shown
  · dsimp only
    split
    · rw [frame_andThen_ok]
      exact shown.hear _
    · exact shown

/-- No step leaves anything else on the screen than the folder on show, unless it fails. -/
theorem DrawnOrLost.step (shown : view.DrawnOrLost) (step : Step) :
    (view.step step).view.DrawnOrLost := by
  cases step with
  | start => exact view.drawnOrLost_start
  | enter name => exact shown.enter name
  | leave => exact shown.leave
  | rebuild raw =>
      rw [TreemapView.step, frame_andThen_ok]
      exact shown.rebuild raw
  | bar use => exact shown.useBar use

theorem DrawnOrLost.run (shown : view.DrawnOrLost) (steps : List Step) :
    (view.run steps).DrawnOrLost := by
  induction steps generalizing view with
  | nil => exact shown
  | cons step steps ih => exact ih (shown.step step)

theorem drawn_start (separated : view.settings.format.separator ≠ "") :
    view.start.view.Drawn := by
  have settingsEq : view.start.view.settings = view.settings := by
    cases view.starts_start with
    | stays alike => exact alike.settings_eq
    | rebuilds history linked alike => exact alike.settings_eq.trans (view.frame_rebuild _).1
  exact view.drawnOrLost_start.drawn (by rwa [settingsEq])

variable {settings : TreemapSettings} {root : Tree}

theorem Drawn.run (separated : settings.format.separator ≠ "")
    (placed : Placed settings root view) (drawn : view.Drawn) (steps : List Step) :
    (view.run steps).Drawn := by
  have settingsEq := (placed.placed_run steps).settings_eq
  exact (DrawnOrLost.run (.inl drawn) steps).drawn (by rwa [settingsEq])

/-- Take any tree, any format with a separator, a bar or none, and any run of steps after
loading.  The last drawing is of the folder on show, with a tile for each of its children in
order, and with the root's name and the names on the way as its title; and title and tiles are
still on the screen.  No step fails on the way. -/
theorem last_drawing_of_folder_along_runs (separated : settings.format.separator ≠ "")
    (bar : Option History) (root : Tree) (steps : List Step) :
    ∃ view, (load settings bar root).view.run steps = view ∧
      view.drawings.getLast? = some
        ⟨view.trail.current, view.trail.current.children.map Tile.ofTree,
          Text.join "/" (root.name :: view.trail.path)⟩ ∧
      view.screen.tiles = view.trail.current.children.map Tile.ofTree ∧
      view.screen.title = Text.join "/" (root.name :: view.trail.path) ∧
      forall step, (view.step step).Answers := by
  have opened : Placed settings root (ofTree settings bar root) := placed_ofTree settings bar root
  have loaded : Placed settings root (load settings bar root).view := opened.placed_step .start
  have drawn : (load settings bar root).view.Drawn :=
    drawn_start (opened.settings_eq.symm ▸ separated)
  have placedThen := loaded.placed_run steps
  have drawnThen := drawn.run separated loaded steps
  have titled : ((load settings bar root).view.run steps).trail.title =
      Text.join "/" (root.name :: ((load settings bar root).view.run steps).trail.path) := by
    rw [Trail.title, placedThen.root_eq]
  refine ⟨_, rfl, ?_, drawnThen.tiles_eq, drawnThen.title_eq.trans titled, ?_⟩
  · rw [← titled]
    exact drawnThen.last
  · intro step
    exact answers_step (placedThen.settings_eq.symm ▸ separated) step

/-- On the small tree: the folder is left, the bar goes back to it, and a child that it does not
have is asked for. -/
theorem last_drawing_on_sample :
    TreemapSettings.standard.format.separator ≠ "" ∧
      ∃ view, (load .standard (some (.ofFragment "root_src")) sampleTree).view.run
          [.leave, .bar .back, .enter "main"] = view ∧
        view.drawings.length = 3 ∧ view.trail.path = ["src"] ∧
        (view.drawings.getLast?.map fun drawing => (drawing.title, drawing.tiles.length)) =
          some ("root/src", 0) := by
  have separated : TreemapSettings.standard.format.separator ≠ "" := by decide
  refine ⟨separated, ?_⟩
  rcases last_drawing_of_folder_along_runs separated (some (.ofFragment "root_src")) sampleTree
    [.leave, .bar .back, .enter "main"] with ⟨view, ran, last, -, -, -⟩
  have reached : ((load .standard (some (.ofFragment "root_src")) sampleTree).view.run
      [.leave, .bar .back, .enter "main"]).drawings.length = 3 ∧
      ((load .standard (some (.ofFragment "root_src")) sampleTree).view.run
        [.leave, .bar .back, .enter "main"]).trail.path = ["src"] ∧
      ((load .standard (some (.ofFragment "root_src")) sampleTree).view.run
        [.leave, .bar .back, .enter "main"]).trail.current.children.length = 0 := by
    decide +kernel
  rw [ran] at reached
  rcases reached with ⟨drawn, path, childless⟩
  refine ⟨view, ran, drawn, path, ?_⟩
  rw [last, Option.map_some, List.length_map, childless, path]
  rfl

end TreemapView
end MutationViewer
