
import MutationViewer.History
import MutationViewer.Screen.Basic
import MutationViewer.Tree.Address

/-!
# The treemap view

A trail leads from the root of a tree to the folder on show.  It keeps the folders that were
left behind on a stack, and beside it the names that were entered.  That there are as many of
both, and that each name belongs to its folder, is not built into the two lists: `Trail.Sound`
says it, and every step keeps it.

The view holds a trail and, if there is one, the address bar.  Entering and leaving folders
writes the address.  The bar tells the view of every change, the view's own writes included, and
the view then rebuilds its trail from the address unless it shows that folder already.
Rebuilding goes to the root before the address is read, and an address that cannot even be cut
leaves it there.
-/

namespace MutationViewer

/-- How addresses and the links to other pages are written. -/
structure TreemapSettings where
  format : AddressFormat
  fileStart : String
  fileEnd : String
  index : String

/-- Pages of files stand in a directory of their own. -/
def TreemapSettings.standard : TreemapSettings where
  format := .standard
  fileStart := "files/"
  fileEnd := ".html"
  index := "index.html"

/-- The way from the root to the folder on show: the folders that were left, the root
first, and the names of the children that were entered. -/
structure Trail where
  root : Tree
  stack : List Tree
  path : List String
  current : Tree

namespace Trail

def atRoot (root : Tree) : Trail where
  root := root
  stack := []
  path := []
  current := root

def address (trail : Trail) (format : AddressFormat) : String :=
  format.write trail.path

/-- The root's name and the names on the way. -/
def title (trail : Trail) : String :=
  Text.join "/" (trail.root.name :: trail.path)

def tiles (trail : Trail) : List Tile :=
  trail.current.children.map Tile.ofTree

/-- The page of a file in the folder on show. -/
def filePage (trail : Trail) (settings : TreemapSettings) (name : String) : String :=
  settings.fileStart ++
    String.join (trail.path.map fun folderName => folderName ++ settings.format.separator) ++
    name ++ settings.fileEnd

def enter (trail : Trail) (name : String) (child : Tree) : Trail where
  root := trail.root
  stack := trail.stack ++ [trail.current]
  path := trail.path ++ [name]
  current := child

/-- Show the folder that was left last; at the root there is none. -/
def leave? (trail : Trail) : Option Trail :=
  trail.stack.getLast?.map fun left => {
    root := trail.root
    stack := trail.stack.dropLast
    path := trail.path.dropLast
    current := left }

/-- Follow a path of names.  Only paths that were read from an address are followed, and
by `follow_located` each of their names then leads to a folder.  Other names, those without
a child, would be passed over. -/
def follow (trail : Trail) : List String -> Trail
  | [] => trail
  | name :: names =>
      match trail.current.child? name with
      | some child => (trail.enter name child).follow names
      | none => trail.follow names

theorem leave?_enter (trail : Trail) (name : String) (child : Tree) :
    (trail.enter name child).leave? = some trail := by
  simp [leave?, enter]

theorem follow_cons {trail : Trail} {name : String} {child : Tree}
    (named : trail.current.child? name = some child) (names : List String) :
    trail.follow (name :: names) = (trail.enter name child).follow names := by
  rw [follow, named]

end Trail

/-- The treemap announces nothing to listeners of its own. -/
abbrev TreemapEffect := Effect Empty

/-- An open treemap view and what it has done so far. -/
structure TreemapView where
  settings : TreemapSettings
  trail : Trail
  bar : Option History
  screen : Screen
  effects : List TreemapEffect

namespace TreemapView

inductive Answer where
  | nothing
  | flag (value : Bool)
  | url (value : String)
deriving DecidableEq, Repr

/-- A step's view, and its answer unless the address could not be cut.  The
view is there in both cases: what happened before the fault stays. -/
structure Outcome (Value : Type) where
  view : TreemapView
  result : Except AddressFault Value

/-- Go on with the answer, unless there was a fault. -/
def Outcome.andThen {First Second : Type} (outcome : Outcome First)
    (next : TreemapView -> First -> Outcome Second) : Outcome Second :=
  match outcome.result with
  | .ok value => next outcome.view value
  | .error fault => ⟨outcome.view, .error fault⟩

/-- A view without effects so far. -/
def ofTree (settings : TreemapSettings) (bar : Option History) (root : Tree) : TreemapView where
  settings := settings
  trail := .atRoot root
  bar := bar
  screen := .blank
  effects := []

def forget (view : TreemapView) : TreemapView :=
  { view with effects := [] }

def note (view : TreemapView) (note : Note) : TreemapView :=
  { view with effects := view.effects ++ [.note note] }

def paint (view : TreemapView) (paint : Paint) : TreemapView :=
  { view with
    screen := view.screen.apply paint
    effects := view.effects ++ [.paint paint] }

def address (view : TreemapView) : String :=
  view.trail.address view.settings.format

def draw (view : TreemapView) : TreemapView :=
  view.paint (.treemap view.trail.current view.trail.tiles view.trail.title)

/-- Put another folder on show. -/
def visit (view : TreemapView) (trail : Trail) : TreemapView :=
  ({ view with trail } : TreemapView).draw

/-- Rebuild the state from an address, unless it is the address on show. -/
def rebuild (view : TreemapView) (raw : Option String) : Outcome Bool :=
  let fragment := Fragment.ofOption raw
  if fragment = view.address then ⟨view, .ok false⟩
  else
    let root := view.trail.root
    let fresh : TreemapView := { view with trail := .atRoot root }
    match root.locate view.settings.format (some fragment) with
    | .error fault => ⟨fresh, .error fault⟩
    | .ok none => ⟨(fresh.note (.unknownAddress fragment)).draw, .ok true⟩
    | .ok (some path) => ⟨fresh.visit (fresh.trail.follow path), .ok true⟩

/-- Take notice of a change of the bar, as the first of its listeners. -/
def hear (view : TreemapView) (history : History) : Outcome Unit :=
  (({ view with bar := some history } : TreemapView).rebuild (some history.fragment)).andThen
    fun heard _ =>
      ⟨{ heard with effects := heard.effects ++ [.address history.fragment] }, .ok ()⟩

/-- Write the address of the folder on show to the bar. -/
def publish (view : TreemapView) : Outcome Unit :=
  match view.bar.bind fun history => history.write? view.address with
  | some written => view.hear written
  | none => ⟨view, .ok ()⟩

/-- Put another folder on show and write its address. -/
def move (view : TreemapView) (trail : Trail) : Outcome Answer :=
  (view.visit trail).publish.andThen fun drilled _ => ⟨drilled, .ok .nothing⟩

def openUrl (view : TreemapView) (url : String) : Outcome Answer :=
  ⟨view.paint (.page url), .ok (.url url)⟩

/-- Open a child: a folder is put on show, and for a file its page is opened. -/
def enter (view : TreemapView) (name : String) : Outcome Answer :=
  match view.trail.current.child? name with
  | none => ⟨view.note (.notChild name view.trail.title), .ok .nothing⟩
  | some child =>
      if child.isFolder then view.move (view.trail.enter name child)
      else view.openUrl (view.trail.filePage view.settings name)

/-- Return to the folder that was left last; from the root, to the index. -/
def leave (view : TreemapView) : Outcome Answer :=
  match view.trail.leave? with
  | some trail => view.move trail
  | none => view.openUrl view.settings.index

/-- Show the folder of the bar's address, else the folder of the trail. -/
def start (view : TreemapView) : Outcome Answer :=
  match view.bar with
  | some history =>
      if history.fragment = "" then ⟨view.draw, .ok .nothing⟩
      else
        (view.rebuild (some history.fragment)).andThen fun started rebuilt =>
          ⟨if rebuilt then started else started.draw, .ok .nothing⟩
  | none => ⟨view.draw, .ok .nothing⟩

def Answer.ofFlag : Option Bool -> Answer
  | some value => .flag value
  | none => .nothing

/-- Use the bar; without one nothing happens. -/
def useBar (view : TreemapView) (use : History.Step) : Outcome Answer :=
  match view.bar with
  | none => ⟨view, .ok .nothing⟩
  | some history =>
      let used := history.step use
      if used.changed then
        (view.hear used.history).andThen fun heard _ => ⟨heard, .ok (.ofFlag used.answer)⟩
      else ⟨view, .ok (.ofFlag used.answer)⟩

inductive Step where
  | start
  | enter (name : String)
  | leave
  | rebuild (raw : Option String)
  | bar (use : History.Step)

def step (view : TreemapView) : Step -> Outcome Answer
  | .start => view.start
  | .enter name => view.enter name
  | .leave => view.leave
  | .rebuild raw => (view.rebuild raw).andThen fun after rebuilt => ⟨after, .ok (.flag rebuilt)⟩
  | .bar use => view.useBar use

/-- The view of a tree, at the address of its bar. -/
def load (settings : TreemapSettings) (bar : Option History) (root : Tree) : Outcome Answer :=
  (ofTree settings bar root).start

end TreemapView
end MutationViewer
