import MutationViewer.Screen.Basic
import MutationViewer.History
import MutationViewer.Source.Traversal

/-!
# The source view

The view carries out moves: it takes over the selection, writes the note, paints
and announces.  If the view is linked to an address bar, the link hears every
announcement first and writes the fragment of the selection, and it hears the
bar and selects what a changed fragment names.  A selection made by the link
is carried out quietly, that is, the link does not hear of it; so a change of
the one never answers itself through the other.

The link remembers the fragment that it wrote or followed last and ignores that
fragment when the bar shows it again.
-/

namespace MutationViewer

/-- What listeners of the selection are told: the cause and the selection at
the time. -/
structure Announcement where
  cause : Cause
  selection : Selection
deriving DecidableEq, Repr

/-- The source view announces changes of its selection. -/
abbrev SourceEffect := Effect Announcement

/-- The address bar and the fragment last written or followed. -/
structure Link where
  history : History
  followed : String

/-- A link to a bar whose fragment counts as followed. -/
def Link.ofHistory (history : History) : Link where
  history := history
  followed := history.fragment

/-- An open source view and what it has done so far. -/
structure SourceView where
  viewer : Viewer
  keys : Keys
  link : Option Link
  screen : Screen
  effects : List SourceEffect

namespace SourceView

def ofReport (report : Report) (settings : SourceSettings) (keys : Keys)
    (bar : Option History) : SourceView where
  viewer := .ofReport report settings
  keys := keys
  link := bar.map Link.ofHistory
  screen := .blank
  effects := []

def forget (view : SourceView) : SourceView :=
  { view with effects := [] }

def selection (view : SourceView) : Selection :=
  view.viewer.selection

def note (view : SourceView) : Option Note -> SourceView
  | none => view
  | some note => { view with effects := view.effects ++ [.note note] }

def paint (view : SourceView) (paints : List Paint) : SourceView :=
  { view with
    screen := view.screen.applyAll paints
    effects := view.effects ++ paints.map .paint }

def center (view : SourceView) (element : String) : SourceView :=
  view.paint [.center element]

def announce (view : SourceView) (announcement : Announcement) : SourceView :=
  { view with effects := view.effects ++ [.announced announcement] }

/-- Take over what a move comes to, before anything is announced. -/
def carryOut (view : SourceView) (move : Move) : SourceView :=
  (({ view with viewer := view.viewer.withSelection move.selection } : SourceView).note
    move.note).paint move.paints

/-- Carry out a move that the link does not hear of. -/
def performQuietly (view : SourceView) (move : Move) : SourceView :=
  let moved := view.carryOut move
  match move.cause with
  | none => moved
  | some cause => moved.announce ⟨cause, move.selection⟩

/-- The view with another fragment taken as followed. -/
def withFollowed (view : SourceView) (fragment : String) : SourceView :=
  { view with link := view.link.map fun link => { link with followed := fragment } }

def withHistory (view : SourceView) (history : History) : SourceView :=
  { view with link := view.link.map fun link => { link with history } }

/-- Select what a fragment names: a mutant, else a location.  It says whether
the fragment names something that can be selected. -/
def selectNamed (view : SourceView) (fragment : String) : SourceView × Bool :=
  if fragment = "" then (view, false)
  else
    match view.viewer.report.mutant? fragment, view.viewer.report.location? fragment with
    | some _, _ =>
        let move := view.viewer.jumpTo fragment
        let moved := view.performQuietly move
        if move.answer then (moved.center fragment, true) else (moved, false)
    | none, some _ =>
        ((view.performQuietly (view.viewer.goTo fragment false)).center fragment, true)
    | none, none => (view, false)

/-- The empty fragment clears the active mutant, once there is a location. -/
def clearNamed (view : SourceView) (fragment : String) : SourceView × Bool :=
  if fragment = "" && view.selection.location.isSome then
    (view.performQuietly (view.viewer.choose none), true)
  else (view, false)

/-- Take a fragment as followed, or note that it was ignored. -/
def settle (view : SourceView) (fragment : String) (followed : Bool) : SourceView :=
  if followed then view.withFollowed fragment else view.note (some (.ignoredFragment fragment))

/-- Follow a fragment that is not the one followed last. -/
def followFragment (view : SourceView) (fragment : String) : SourceView :=
  let (named, selected) := view.selectNamed fragment
  if selected then named.settle fragment true
  else
    let (cleared, done) := named.clearNamed fragment
    cleared.settle fragment done

/-- React to a changed fragment; without a link nothing happens. -/
def follow (view : SourceView) (raw : Option String) : SourceView :=
  match view.link with
  | none => view
  | some link =>
      let fragment := Fragment.ofOption raw
      if fragment = link.followed then view else view.followFragment fragment

/-- Take notice of a change of the bar, as the first of its listeners. -/
def hear (view : SourceView) (history : History) : SourceView :=
  let heard := (view.withHistory history).follow (some history.fragment)
  { heard with effects := heard.effects ++ [.address history.fragment] }

/-- The fragment of a selection.  Without a mutant it is the location's if that
is what was asked for. -/
def fragmentOf (cause : Cause) (selection : Selection) : String :=
  match selection.mutant, cause with
  | some mutant, _ => mutant.id
  | none, .location => (selection.location.map Location.id).getD ""
  | none, .mutant => ""

/-- Write the fragment of the selection to the bar, if there is one. -/
def lead (view : SourceView) (cause : Cause) : SourceView :=
  match view.link with
  | none => view
  | some link =>
      let fragment := fragmentOf cause view.selection
      let led := view.withFollowed fragment
      match link.history.write? fragment with
      | none => led
      | some written => led.hear written

/-- Bring the active location into view if it is not the one before. -/
def centerFrom (view : SourceView) (before : Option Location) : SourceView :=
  if view.selection.location = before then view
  else
    match view.selection.location with
    | some location => view.center location.id
    | none => view

/-- Carry out a move and tell everyone. -/
def perform (view : SourceView) (move : Move) : SourceView :=
  let moved := view.carryOut move
  let told :=
    match move.cause with
    | none => moved
    | some cause => (moved.lead cause).announce ⟨cause, move.selection⟩
  if move.centers && move.answer && view.viewer.settings.centering then
    told.centerFrom view.selection.location
  else told

def switch (view : SourceView) (switch : Filters.Switch) : SourceView × Bool :=
  let switched : SourceView := { view with viewer := view.viewer.switched switch }
  let move := switched.viewer.afterSwitch switch
  (switched.perform move, move.answer)

/-- Select what the bar names, and the first location if it names nothing. -/
def restore (view : SourceView) : SourceView :=
  match view.link with
  | none => view
  | some link =>
      let fragment := Fragment.normalize link.history.fragment
      let (named, selected) :=
        (view.performQuietly view.viewer.start).selectNamed fragment
      named.settle fragment selected

/-- Use the bar; without one nothing happens. -/
def useBar (view : SourceView) (use : History.Step) : SourceView × Option Bool :=
  match view.link with
  | none => (view, none)
  | some link =>
      let used := link.history.step use
      (if used.changed then view.hear used.history else view, used.answer)

def load (report : Report) (settings : SourceSettings) (bar : Option History) : SourceView :=
  (ofReport report settings settings.keys (some (bar.getD (.ofFragment "")))).restore

/-- The checkboxes for the filter values that the report offers. -/
def checkboxes (view : SourceView) : List (String × Bool) × List (String × Bool) :=
  (view.viewer.filters.kindGroupBoxes view.viewer.report.offeredKindGroups,
   view.viewer.filters.statusBoxes view.viewer.report.offeredStatuses)

end SourceView
end MutationViewer
