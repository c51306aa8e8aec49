/-!
# The tree of scores

Folders hold folders and files; files carry a score and a number of lines, each
of which may be missing.  A folder may carry such values too, but what is shown
for it is always computed from the files below: the mean of their scores and
the sum of their lines.  Sibling names may repeat, and then the first child of a
name stands for it.
-/

namespace MutationViewer

/-- The name and the values that a node carries itself. -/
structure Entry where
  name : String
  score : Option Float
  lines : Option Int

inductive Tree where
  | file (entry : Entry)
  | folder (entry : Entry) (children : List Tree)

namespace Tree

/-- What the node carries itself. -/
def entry : Tree -> Entry
  | file entry => entry
  | folder entry _ => entry

def name (tree : Tree) : String :=
  tree.entry.name

/-- The children of a folder; a file has none. -/
def children : Tree -> List Tree
  | file _ => []
  | folder _ children => children

/-- Whether the node is a folder, be it empty. -/
def isFolder : Tree -> Bool
  | file _ => false
  | folder .. => true

/-- The child that a name stands for. -/
def child? (tree : Tree) (name : String) : Option Tree :=
  tree.children.find? fun node => node.name == name

/-- The child that a name stands for, if that is a folder. -/
def folder? (tree : Tree) (name : String) : Option Tree :=
  (tree.child? name).filter isFolder

/-- A missing score counts as zero, and zero has no sign. -/
def Entry.scoreOrZero (entry : Entry) : Float :=
  match entry.score with
  | some score => if score == 0 then 0 else score
  | none => 0

/-- Missing lines count as none. -/
def Entry.linesOrZero (entry : Entry) : Int :=
  entry.lines.getD 0

mutual

/-- The files of the tree in order, itself included. -/
def files : Tree -> List Entry
  | file entry => [entry]
  | folder _ children => filesOfAll children

def filesOfAll : List Tree -> List Entry
  | [] => []
  | tree :: trees => files tree ++ filesOfAll trees

end

theorem filesOfAll_eq_flatMap (trees : List Tree) :
    filesOfAll trees = trees.flatMap files := by
  induction trees with
  | nil => simp [filesOfAll]
  | cons tree trees ih => simp [filesOfAll, ih]

theorem files_folder (entry : Entry) (children : List Tree) :
    (folder entry children).files = children.flatMap files := by
  rw [files, filesOfAll_eq_flatMap]

/-- The mean of scores; of no scores it is zero.  The sum is a plain fold from the left: each
addition is rounded, and nothing makes up for what the rounding has lost. -/
def meanScore (entries : List Entry) : Float :=
  if entries.isEmpty then 0
  else
    entries.foldl (fun sum entry => sum + Entry.scoreOrZero entry) 0 / Float.ofNat entries.length

def shownScore : Tree -> Float
  | file entry => Entry.scoreOrZero entry
  | folder entry children => meanScore (folder entry children).files

def shownLines (tree : Tree) : Int :=
  tree.files.foldl (fun sum entry => sum + Entry.linesOrZero entry) 0

theorem shownLines_file (entry : Entry) :
    (file entry).shownLines = Entry.linesOrZero entry := by
  simp [shownLines, files]

theorem child?_name {tree child : Tree} {name : String}
    (found : tree.child? name = some child) : child.name = name := by
  have hit := List.find?_some found
  simpa using hit

end Tree

/-- A child of the folder on show, with the values shown for it. -/
structure Tile where
  node : Tree
  score : Float
  lines : Int

def Tile.ofTree (tree : Tree) : Tile where
  node := tree
  score := tree.shownScore
  lines := tree.shownLines

end MutationViewer
