import MutationViewer.Filters
import MutationViewer.Screen.Basic

/-!
# Selecting locations and mutants

At most one location is active, and within it at most one mutant.  A move is what a request
comes to: the selection afterwards, the answer, and what is to be noted, painted and announced,
in this order.  Moves are computed from the viewer alone, before anything is told to anyone, so
a request that is refused leaves no trace but its note.  The settings bind keys by their codes,
choose between ways of moving, and say how much the info panel lists.
-/

namespace MutationViewer
/-- What happens when a traversal of mutants runs past an end of its location:
it stays, it wraps around within the location, or it goes on elsewhere. -/
inductive Overrun where
  | stop
  | wrap
  | goOn
deriving DecidableEq, Repr

structure Keys where
  previousLocation : String
  nextLocation : String
  previousMutant : String
  nextMutant : String
  flip : String
deriving DecidableEq, Repr

/-- The arrow keys move, and the zero of the number pad shows and hides. -/
def Keys.standard : Keys where
  previousLocation := "ArrowUp"
  nextLocation := "ArrowDown"
  previousMutant := "ArrowLeft"
  nextMutant := "ArrowRight"
  flip := "Numpad0"

/-- The legend of the keys: what each one does, and its code. -/
def Keys.legend (keys : Keys) : List (String × String) :=
  [("Next line", keys.nextLocation),
   ("Prev line", keys.previousLocation),
   ("Next mutant", keys.nextMutant),
   ("Prev mutant", keys.previousMutant),
   ("Toggle show", keys.flip)]

structure SourceSettings where
  ring : Bool
  overrun : Overrun
  centering : Bool
  panelTestCases : Int
  keys : Keys
deriving DecidableEq, Repr

/-- Locations form a ring, and mutants are traversed through the document. -/
def SourceSettings.standard : SourceSettings where
  ring := true
  overrun := .goOn
  centering := true
  panelTestCases := Report.standardTestCases
  keys := .standard

/-- What is selected, and whether the active mutant's replacement is shown. -/
structure Selection where
  location : Option Location
  mutant : Option Mutant
  shows : Bool
deriving DecidableEq, Repr

def Selection.initial : Selection := ⟨none, none, true⟩

/-- What a change of the selection was asked for as. -/
inductive Cause where
  | location
  | mutant
deriving DecidableEq, Repr

def Cause.name : Cause -> String
  | .location => "location"
  | .mutant => "mutant"

/-- The data, the settings and the state that a request is answered from. -/
structure Viewer where
  report : Report
  settings : SourceSettings
  filters : Filters
  selection : Selection

/-- What a request comes to. -/
structure Move where
  selection : Selection
  answer : Bool
  note : Option Note
  paints : List Paint
  cause : Option Cause
  centers : Bool

namespace Viewer

def ofReport (report : Report) (settings : SourceSettings) : Viewer where
  report := report
  settings := settings
  filters := .none
  selection := .initial

/-- The mutants of the active location that pass the filters. -/
def candidates (viewer : Viewer) : List Mutant :=
  viewer.filters.candidates viewer.report viewer.selection.location

def panel (viewer : Viewer) (mutant : Mutant) : InfoPanel :=
  viewer.report.panel viewer.settings.panelTestCases mutant

def withSelection (viewer : Viewer) (selection : Selection) : Viewer :=
  { viewer with selection }

/-- Show the replacement of the active mutant, or none. -/
def paintMutant (viewer : Viewer) : Paint :=
  match viewer.selection.mutant with
  | some mutant =>
      if viewer.selection.shows then .mutant mutant (viewer.panel mutant) else .noMutant
  | none => .noMutant

def paintPicker (viewer : Viewer) : List Paint :=
  [.picker viewer.candidates (viewer.selection.mutant.map Mutant.id),
   viewer.paintMutant]

def stay (viewer : Viewer) (answer : Bool) (note : Option Note) : Move where
  selection := viewer.selection
  answer := answer
  note := note
  paints := []
  cause := none
  centers := false

/-- The mutant stays active in a location that lists it and whose filters let
it pass. -/
def fits (viewer : Viewer) (location : Location) (mutant : Mutant) : Bool :=
  location.mutantIds.contains mutant.id && viewer.filters.passes mutant

/-- Make a location active.  The active mutant is cleared, unless it is to be
preserved and fits. -/
def goTo (viewer : Viewer) (id : String) (preserve : Bool) : Move :=
  match viewer.report.location? id with
  | none => viewer.stay false (some (.unknownLocation id))
  | some location =>
      let kept := viewer.selection.mutant.filter fun mutant =>
        preserve && viewer.fits location mutant
      let selection : Selection := ⟨some location, kept, viewer.selection.shows⟩
      { selection
        answer := true
        note := none
        paints := .location (some location) viewer.selection.location ::
          (viewer.withSelection selection).paintPicker
        cause := some .location
        centers := false }

/-- Make the first location active, if there is one. -/
def start (viewer : Viewer) : Move :=
  match viewer.report.locations with
  | [] => viewer.stay false none
  | first :: _ => viewer.goTo first.id false

/-- The entry of the picker that stands for no mutant. -/
def noneEntry : String := "none"

/-- The id of the mutant that a picker entry asks for, if it asks for one. -/
def askedMutant (entry : Option String) : Option String :=
  entry.filter fun id => !(id == "" || id == noneEntry)

def candidate? (viewer : Viewer) (id : String) : Option Mutant :=
  viewer.candidates.find? fun mutant => mutant.id == id

/-- Choose a mutant of the active location, or none of them.  An id that is not
a candidate counts as none. -/
def choose (viewer : Viewer) (entry : Option String) : Move :=
  match viewer.selection.location with
  | none => viewer.stay false none
  | some location =>
      let asked := askedMutant entry
      let chosen := asked.bind viewer.candidate?
      let selection : Selection := ⟨some location, chosen, viewer.selection.shows⟩
      { selection
        answer := chosen.isSome
        note :=
          if chosen.isSome then none
          else asked.map fun id => .notCandidate id location.id
        paints := (viewer.withSelection selection).paintPicker
        cause := some .mutant
        centers := false }

/-- Choose a mutant anywhere in the document; its location becomes active. -/
def jumpTo (viewer : Viewer) (id : String) : Move :=
  match viewer.report.mutant? id, viewer.report.owner? id with
  | some mutant, some location =>
      if viewer.filters.passes mutant then
        let selection : Selection := ⟨some location, some mutant, viewer.selection.shows⟩
        { selection
          answer := true
          note := none
          paints :=
            (if viewer.selection.location = some location then []
             else [.location (some location) viewer.selection.location]) ++
            (viewer.withSelection selection).paintPicker
          cause := some .mutant
          centers := false }
      else viewer.stay false (some (.filteredOut id))
  | _, _ => viewer.stay false (some (.unknownMutant id))

def flip (viewer : Viewer) : Move :=
  let shows := !viewer.selection.shows
  let selection : Selection := { viewer.selection with shows }
  { selection
    answer := shows
    note := none
    paints := [(viewer.withSelection selection).paintMutant]
    cause := none
    centers := false }

/-- The viewer after a switch of the filters, before it takes notice. -/
def switched (viewer : Viewer) (switch : Filters.Switch) : Viewer :=
  { viewer with filters := viewer.filters.toggle switch }

/-- Take notice of the filters: an active mutant that does not pass is cleared.
Nothing is shown before there is an active location. -/
def afterSwitch (viewer : Viewer) (switch : Filters.Switch) : Move :=
  let answer := viewer.filters.excludes switch
  let note := some (viewer.filters.toggleNote switch)
  match viewer.selection.location with
  | none => viewer.stay answer note
  | some location =>
      let kept := viewer.selection.mutant.filter viewer.filters.passes
      let selection : Selection := ⟨some location, kept, viewer.selection.shows⟩
      { selection
        answer
        note
        paints := (viewer.withSelection selection).paintPicker
        cause := if kept = viewer.selection.mutant then none else some .mutant
        centers := false }

theorem goTo_of_known {viewer : Viewer} {id : String} {location : Location}
    (known : viewer.report.location? id = some location) (preserve : Bool) :
    (viewer.goTo id preserve).selection =
      ⟨some location,
       viewer.selection.mutant.filter fun mutant => preserve && viewer.fits location mutant,
       viewer.selection.shows⟩ := by
  simp [goTo, known]

theorem goTo_of_unknown {viewer : Viewer} {id : String}
    (unknown : viewer.report.location? id = none) (preserve : Bool) :
    viewer.goTo id preserve = viewer.stay false (some (.unknownLocation id)) := by
  simp [goTo, unknown]

end Viewer

end MutationViewer
