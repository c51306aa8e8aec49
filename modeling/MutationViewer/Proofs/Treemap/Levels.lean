import MutationViewer.Proofs.Tree.Totals
import MutationViewer.Proofs.Treemap.Drawing
import MutationViewer.Proofs.Treemap.Drilling

/-!
# Lines from level to level

Each folder on the way from the root shows the same lines twice: on the tile by which it was
entered, and spread over the tiles inside it.  Both are counted anew in every state, and they agree
however the folder was reached.  A step that enters a folder draws its tiles before it writes the
address, so whatever the bar makes of that address, the tiles that are drawn next have the lines of
the tile.  A name opens the first tile that bears it; a folder behind another child of its name
cannot be entered.
-/

namespace MutationViewer

/-- On the way from each folder to the next, the tile of the name that was entered is the tile of
the next folder, whose own tiles have the lines of this tile together. -/
def Trail.LevelsAgree (trail : Trail) : Prop :=
  forall (index : Nat) name, trail.path[index]? = some name ->
    ∃ parent tile, trail.folders[index]? = some parent ∧ parent.tile? name = some tile ∧
      trail.folders[index + 1]? = some tile.node ∧ Tile.total tile.node.tiles = tile.lines

theorem Trail.InLine.levelsAgree {root : Tree} {trail : Trail} (inLine : trail.InLine root) :
    trail.LevelsAgree := by
  intro index name entered
  rcases inLine.next index name entered with ⟨parent, child, parentAt, childAt, named, isFolder⟩
  refine ⟨parent, Tile.ofTree child, parentAt, ?_, childAt, Tree.total_tiles isFolder⟩
  rw [Tree.tile?_eq_map, named]
  rfl

namespace TreemapView

variable {view : TreemapView}

theorem effects_prefix_rebuild (view : TreemapView) (raw : Option String) :
    view.effects <+: (view.rebuild raw).view.effects := by
  unfold rebuild
  dsimp only
  split
  · exact List.prefix_rfl
  · split
    · exact List.prefix_rfl
    · exact (List.prefix_append _ _).trans (List.prefix_append _ _)
    · exact List.prefix_append _ _

theorem effects_prefix_hear (view : TreemapView) (history : History) :
    view.effects <+: (view.hear history).view.effects := by
  have rebuilt := ({ view with bar := some history } : TreemapView).effects_prefix_rebuild
    (some history.fragment)
  unfold hear
  generalize ({ view with bar := some history } : TreemapView).rebuild
    (some history.fragment) = outcome at rebuilt ⊢
  rcases outcome with ⟨heard, result⟩
  cases result with
  | ok answer => exact rebuilt.trans (List.prefix_append _ _)
  | error fault => exact rebuilt

theorem effects_prefix_publish (view : TreemapView) :
    view.effects <+: view.publish.view.effects := by
  unfold publish
  split
  · exact view.effects_prefix_hear _
  · exact List.prefix_rfl

/-- A folder that is put on show is drawn before anything else. -/
theorem drawings_prefix_move (view : TreemapView) (trail : Trail) :
    view.drawings ++ [trail.drawing] <+: (view.move trail).view.drawings := by
  have visited : (view.visit trail).drawings = view.drawings ++ [trail.drawing] :=
    drawings_of_effects (rfl : (view.visit trail).effects = view.effects ++ [_])
  rw [move, frame_andThen_ok, ← visited]
  exact (view.visit trail).effects_prefix_publish.filterMap _

/-! ## Opening a tile -/

/-- What comes of opening the tile of a folder.  The tiles of the folder have the lines of its own
tile together, and they are drawn before anything else.  If the address of the folder is in its
kept form, or if there is no bar to write it to, they are on show afterwards. -/
structure Unfolds (view : TreemapView) (name : String) (tile : Tile)
    (outcome : Outcome Answer) : Prop where
  total_eq : Tile.total tile.node.tiles = tile.lines
  drawn : view.drawings ++
      [⟨tile.node, tile.node.tiles, (view.trail.enter name tile.node).title⟩] <+:
    outcome.view.drawings
  shown : (view.bar = none ∨ Fragment.normalize (view.settings.format.write
      (view.trail.path ++ [name])) = view.settings.format.write (view.trail.path ++ [name])) ->
    outcome.result = .ok .nothing ∧ outcome.view.trail = view.trail.enter name tile.node ∧
      outcome.view.screen.tiles = tile.node.tiles

theorem publish_of_no_bar (unlinked : view.bar = none) : view.publish = ⟨view, .ok ()⟩ := by
  rw [publish, unlinked, Option.bind_none]

theorem unfolds_enter {name : String} {tile : Tile}
    (named : view.trail.current.tile? name = some tile) (isFolder : tile.node.isFolder = true) :
    view.Unfolds name tile (view.enter name) := by
  rw [Tree.tile?_eq_map] at named
  rcases Option.map_eq_some_iff.mp named with ⟨child, found, rfl⟩
  change child.isFolder = true at isFolder
  rw [enter_of_folder found isFolder]
  refine ⟨Tree.total_tiles isFolder, view.drawings_prefix_move (view.trail.enter name child),
    fun quiet => ?_⟩
  have published : ∃ bar effects, (view.visit (view.trail.enter name child)).publish =
      ⟨{ view.visit (view.trail.enter name child) with bar := bar, effects := effects },
        .ok ()⟩ := by
    rcases quiet with unlinked | kept
    · exact ⟨_, _, publish_of_no_bar unlinked⟩
    · exact publish_of_kept (address_visit_enter view name child ▸ kept)
  rcases published with ⟨bar, effects, published⟩
  rw [move, published]
  exact ⟨rfl, rfl, rfl⟩

/-- Whatever is shown for a tree comes from its files alone: a folder has the files of its children
one after the other and their lines together, no matter what folders carry themselves, and its
score never asks for a mean of nothing.  Take any tree, any settings, a bar or none, and any run of
steps, whether they fail or not.  Each tile by which a folder on the way was entered has the lines
of the tiles inside that folder together.  If a name opens the tile of a folder, entering it draws
the tiles of this folder, whose lines add up to those of the tile, and these tiles stay on show if
the address of the folder is in its kept form or there is no bar. -/
theorem lines_agree_across_levels (settings : TreemapSettings) (bar : Option History)
    (root : Tree) (steps : List Step) :
    (forall tree : Tree, tree.AddsUp) ∧
      ∃ view, (ofTree settings bar root).run steps = view ∧ view.trail.LevelsAgree ∧
        forall name tile, view.trail.current.tile? name = some tile ->
          tile.node.isFolder = true -> view.Unfolds name tile (view.step (.enter name)) := by
  have placed := (placed_ofTree settings bar root).placed_run steps
  refine ⟨Tree.addsUp, _, rfl, placed.sound.inLine.levelsAgree, ?_⟩
  intro name tile named isFolder
  exact unfolds_enter named isFolder

/-- A folder that carries more lines than it has, with an empty folder, a file without lines and
one with less than none inside. -/
def countedFolder : Tree :=
  .folder ⟨"lib", none, some 50⟩
    [.file ⟨"a", none, some 7⟩, .folder ⟨"old", none, some 9⟩ [], .file ⟨"b", none, none⟩,
      .folder ⟨"gen", none, none⟩ [.file ⟨"c", none, some (-2)⟩]]

/-- The root carries lines too, and a file behind the folder has the same name. -/
def countedTree : Tree :=
  .folder ⟨"root", none, some 100⟩ [countedFolder, .file ⟨"lib", none, some 3⟩]

/-- The folder is reached by its address, left, and opened by its tile. -/
theorem lines_agree_in_countedTree :
    ∃ view tile, (ofTree .standard (some (.ofFragment "root_lib")) countedTree).run
        [.start, .leave] = view ∧
      view.trail.current.tile? "lib" = some tile ∧ tile.node.isFolder = true ∧ tile.lines = 5 ∧
      view.Unfolds "lib" tile (view.step (.enter "lib")) ∧
      Tile.total (view.step (.enter "lib")).view.screen.tiles = 5 := by
  rcases lines_agree_across_levels .standard (some (.ofFragment "root_lib")) countedTree
    [.start, .leave] with ⟨-, view, ran, -, opens⟩
  have placed : Placed .standard countedTree view :=
    ran ▸ (placed_ofTree _ _ _).placed_run [.start, .leave]
  have path : ((ofTree .standard (some (.ofFragment "root_lib")) countedTree).run
      [.start, .leave]).trail.path = [] := by
    decide +kernel
  rw [ran] at path
  have named : view.trail.current.tile? "lib" = some (Tile.ofTree countedFolder) := by
    rw [placed.sound.current_eq_root_iff.mpr path, placed.root_eq, Tree.tile?_eq_map]
    rfl
  have kept : Fragment.normalize (view.settings.format.write (view.trail.path ++ ["lib"])) =
      view.settings.format.write (view.trail.path ++ ["lib"]) := by
    rw [placed.settings_eq, path]
    decide +kernel
  have lines : (Tile.ofTree countedFolder).lines = 5 := by decide +kernel
  have unfolds := opens "lib" _ named rfl
  rcases unfolds.shown (.inr kept) with ⟨-, -, tilesEq⟩
  refine ⟨view, _, ran, named, rfl, lines, unfolds, ?_⟩
  rw [tilesEq, unfolds.total_eq, lines]

/-- A folder behind a file of its name, and one behind another folder. -/
def shadowedData : Json :=
  .object [("name", .text "root"), ("children", .list
    [.object [("name", .text "lib"), ("locs", .int 3)],
      .object [("name", .text "lib"),
        ("children", .list [.object [("name", .text "a"), ("locs", .int 5)]])],
      .object [("name", .text "gen"),
        ("children", .list [.object [("name", .text "b"), ("locs", .int 2)]])],
      .object [("name", .text "gen"),
        ("children", .list [.object [("name", .text "c"), ("locs", .int 4)]])]])]

/-- Both have tiles, but their names open the child in front of them.  If that is a file nothing is
drawn, and the tiles of all four stay on show; if it is a folder its tiles have other lines. -/
theorem shadowed_folders_not_opened :
    ∃ root, Tree.ofJson shadowedData = .ok root ∧
      (∃ tile ∈ (load .standard none root).view.trail.tiles,
        tile.node.isFolder = true ∧ tile.lines = 5 ∧
        ((load .standard none root).view.step (.enter tile.node.name)).view.drawings =
          (load .standard none root).view.drawings ∧
        Tile.total ((load .standard none root).view.step
          (.enter tile.node.name)).view.screen.tiles = 14) ∧
      ∃ tile ∈ (load .standard none root).view.trail.tiles,
        tile.node.isFolder = true ∧ tile.lines = 4 ∧
        Tile.total ((load .standard none root).view.step
          (.enter tile.node.name)).view.screen.tiles = 2 := by
  let behindFile : Tree := .folder ⟨"lib", none, none⟩ [.file ⟨"a", none, some 5⟩]
  let behindFolder : Tree := .folder ⟨"gen", none, none⟩ [.file ⟨"c", none, some 4⟩]
  let root : Tree := .folder ⟨"root", none, none⟩ [.file ⟨"lib", none, some 3⟩, behindFile,
    .folder ⟨"gen", none, none⟩ [.file ⟨"b", none, some 2⟩], behindFolder]
  have shown : (load .standard none root).view.trail.tiles = root.tiles := rfl
  refine ⟨root, rfl, ⟨Tile.ofTree behindFile, ?_, rfl, ?_, rfl, ?_⟩,
    Tile.ofTree behindFolder, ?_, rfl, ?_, ?_⟩
  · rw [shown]
    exact List.mem_map_of_mem (by simp [Tree.children, root])
  · decide +kernel
  · decide +kernel
  · rw [shown]
    exact List.mem_map_of_mem (by simp [Tree.children, root])
  · decide +kernel
  · decide +kernel

end TreemapView
end MutationViewer
