import Mathlib.Algebra.BigOperators.Group.List.Basic
import Mathlib.Algebra.Ring.Int.Defs
import MutationViewer.Tree.Basic

/-!
# What is shown for a folder

The lines shown for a folder are counted over the files below it, and the list of these files is
made anew each time.  Its tiles count for each child apart.  Both come to the same sum, because the
files of a folder are those of its children one after the other, on every level.  Only files bear
on it: folders may carry lines and scores of their own, and nothing that is shown depends on them.

A mean is a quotient, and not every folder has files below it, even if it has children.  That the
mean is never asked for without a file is said with a division that has no result for zero.
-/

namespace MutationViewer

def Tile.total (tiles : List Tile) : Int :=
  (tiles.map Tile.lines).sum

namespace Tree

def tiles (tree : Tree) : List Tile :=
  tree.children.map Tile.ofTree

/-- The first of the tiles with a name, which is the one that the name opens. -/
def tile? (tree : Tree) (name : String) : Option Tile :=
  tree.tiles.find? fun tile => tile.node.name == name

theorem tile?_eq_map (tree : Tree) (name : String) :
    tree.tile? name = (tree.child? name).map Tile.ofTree := by
  rw [tile?, tiles, List.find?_map]
  rfl

theorem shownLines_eq_sum (tree : Tree) :
    tree.shownLines = (tree.files.map Entry.linesOrZero).sum := by
  rw [List.sum_eq_foldl, List.foldl_map]
  rfl

theorem shownLines_folder (entry : Entry) (children : List Tree) :
    (folder entry children).shownLines = (children.map shownLines).sum := by
  have counted : (List.sum ∘ fun child : Tree => child.files.map Entry.linesOrZero) =
      shownLines := funext fun child => (shownLines_eq_sum child).symm
  calc (folder entry children).shownLines
      = (children.flatMap fun child => child.files.map Entry.linesOrZero).sum := by
        rw [shownLines_eq_sum, files_folder, List.map_flatMap]
    _ = (children.map shownLines).sum := by
        rw [List.flatMap_def, List.sum_flatten, List.map_map, counted]

/-- What stands on the tiles of a folder adds up to what stands on the tile of the folder. -/
theorem total_tiles {tree : Tree} (isFolder : tree.isFolder = true) :
    Tile.total tree.tiles = (Tile.ofTree tree).lines := by
  cases tree with
  | file entry => cases isFolder
  | folder entry children =>
      rw [Tile.total, tiles, List.map_map]
      exact (shownLines_folder entry children).symm

/-- The tree without the values that its folders carry.  Its files keep theirs. -/
def bare : Tree -> Tree
  | file entry => file entry
  | folder entry children => folder ⟨entry.name, none, none⟩ (children.map bare)

theorem files_bare (tree : Tree) : tree.bare.files = tree.files := by
  induction tree using bare.induct with
  | case1 entry => rw [bare]
  | case2 entry children ih =>
      rw [bare, files_folder, files_folder, List.flatMap_map]
      exact List.flatMap_congr ih

/-- The same is shown for two trees: the same files, score and lines. -/
structure ShownAlike (tree other : Tree) : Prop where
  files_eq : other.files = tree.files
  score_eq : other.shownScore = tree.shownScore
  lines_eq : other.shownLines = tree.shownLines

theorem shownAlike_bare (tree : Tree) : tree.ShownAlike tree.bare where
  files_eq := tree.files_bare
  score_eq := by
    cases tree with
    | file entry => rw [bare]
    | folder entry children =>
        have files := (folder entry children).files_bare
        rw [bare] at files ⊢
        rw [shownScore, shownScore, files]
  lines_eq := by rw [shownLines, shownLines, files_bare]

/-- Trees that differ in nothing but the values of their folders are shown alike. -/
theorem shownAlike_of_bare_eq {tree other : Tree} (same : other.bare = tree.bare) :
    tree.ShownAlike other := by
  have shown := tree.shownAlike_bare
  have shownOther := other.shownAlike_bare
  rw [same] at shownOther
  exact ⟨shownOther.files_eq.symm.trans shown.files_eq,
    shownOther.score_eq.symm.trans shown.score_eq,
    shownOther.lines_eq.symm.trans shown.lines_eq⟩

/-! ## Scores -/

/-- A sum of scores divided by a count.  Division by zero has no result. -/
def quotient? (sum : Float) (count : Nat) : Option Float :=
  if count = 0 then none else some (sum / Float.ofNat count)

/-- The mean of scores by a division that may have no result. -/
def meanScore? (entries : List Entry) : Option Float :=
  quotient? (entries.foldl (fun sum entry => sum + Entry.scoreOrZero entry) 0) entries.length

/-- The score for the node by a division that may have no result: a folder without files is not
asked for a mean. -/
def shownScore? : Tree -> Option Float
  | file entry => some (Entry.scoreOrZero entry)
  | folder entry children =>
      if (folder entry children).files.isEmpty then some 0
      else meanScore? (folder entry children).files

theorem meanScore?_eq_none_iff {entries : List Entry} :
    meanScore? entries = none ↔ entries = [] := by
  rw [meanScore?, quotient?, ← List.length_eq_zero_iff]
  split
  · next none => exact iff_of_true rfl none
  · next counted => exact iff_of_false (Option.some_ne_none _) counted

theorem meanScore?_of_ne_nil {entries : List Entry} (listed : entries ≠ []) :
    meanScore? entries = some (meanScore entries) := by
  have counted : entries.length ≠ 0 := fun none => listed (List.length_eq_zero_iff.mp none)
  rw [meanScore?, quotient?, if_neg counted, meanScore, if_neg (by simpa using listed)]

/-- The mean would have no result exactly for folders whose children have no files, be they folders
themselves. -/
theorem meanScore?_folder_eq_none_iff (entry : Entry) (children : List Tree) :
    meanScore? (folder entry children).files = none ↔ ∀ child ∈ children, child.files = [] := by
  rw [meanScore?_eq_none_iff, files_folder, List.flatMap_eq_nil_iff]

/-- It is never asked for there. -/
theorem shownScore?_eq (tree : Tree) : tree.shownScore? = some tree.shownScore := by
  cases tree with
  | file entry => rfl
  | folder entry children =>
      rw [shownScore?, shownScore]
      by_cases empty : (folder entry children).files = []
      · rw [empty]
        rfl
      · rw [if_neg (by simpa using empty), meanScore?_of_ne_nil empty]

/-- What is shown for a tree comes from its files alone: a file is its own, and a folder has those
of its children in order and their lines together.  What folders carry themselves does not matter.
A mean of no scores would be asked for only of a folder whose children have no files, and there it
is not: the score has a value for every tree. -/
structure AddsUp (tree : Tree) : Prop where
  files_file : tree.isFolder = false -> tree.files = [tree.entry]
  lines_file : tree.isFolder = false -> tree.shownLines = Entry.linesOrZero tree.entry
  files_folder : tree.isFolder = true -> tree.files = tree.children.flatMap files
  lines_folder : tree.isFolder = true -> tree.shownLines = (tree.children.map shownLines).sum
  alike : forall other : Tree, other.bare = tree.bare -> tree.ShownAlike other
  mean_none_iff : tree.isFolder = true ->
    (meanScore? tree.files = none ↔ ∀ child ∈ tree.children, child.files = [])
  score_eq : tree.shownScore? = some tree.shownScore

theorem addsUp (tree : Tree) : tree.AddsUp := by
  have alike : forall other : Tree, other.bare = tree.bare -> tree.ShownAlike other :=
    fun _ => shownAlike_of_bare_eq
  have score := tree.shownScore?_eq
  cases tree with
  | file entry =>
      exact {
        files_file := fun _ => by rw [files, Tree.entry]
        lines_file := fun _ => shownLines_file entry
        files_folder := fun isFolder => by cases isFolder
        lines_folder := fun isFolder => by cases isFolder
        alike
        mean_none_iff := fun isFolder => by cases isFolder
        score_eq := score }
  | folder entry children =>
      exact {
        files_file := fun isFile => by cases isFile
        lines_file := fun isFile => by cases isFile
        files_folder := fun _ => files_folder entry children
        lines_folder := fun _ => shownLines_folder entry children
        alike
        mean_none_iff := fun _ => meanScore?_folder_eq_none_iff entry children
        score_eq := score }

end Tree
end MutationViewer
