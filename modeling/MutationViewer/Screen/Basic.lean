import MutationViewer.Log
import MutationViewer.Report.Panel
import MutationViewer.Tree.Basic

/-!
# What is on the screen

The views do not draw.  They give commands, and the screen is what the commands so far amount
to: the last value of every part, and all the pages that were opened.  The two views share one
screen and do not disturb each other.

Besides changing its state, a step of a page writes notes, gives commands to the screen,
changes the address, and announces changes to listeners.  These effects are recorded in the
order in which they happen, since a listener may cause further ones before the step is over.
-/

namespace MutationViewer
/-- A command to whatever shows the report. -/
inductive Paint where
  | location (location previous : Option Location)
  | picker (candidates : List Mutant) (activeId : Option String)
  | mutant (mutant : Mutant) (info : InfoPanel)
  | noMutant
  | center (element : String)
  | treemap (node : Tree) (tiles : List Tile) (title : String)
  | page (url : String)

/-- The parts of the screen. -/
structure Screen where
  location : Option Location
  candidates : List Mutant
  activeId : Option String
  mutant : Option Mutant
  info : Option InfoPanel
  centered : Option String
  title : String
  tiles : List Tile
  pages : List String

namespace Screen

def blank : Screen where
  location := none
  candidates := []
  activeId := none
  mutant := none
  info := none
  centered := none
  title := ""
  tiles := []
  pages := []

def apply (screen : Screen) : Paint -> Screen
  | .location location _ => { screen with location }
  | .picker candidates activeId => { screen with candidates, activeId }
  | .mutant mutant info => { screen with mutant := some mutant, info := some info }
  | .noMutant => { screen with mutant := none, info := none }
  | .center element => { screen with centered := some element }
  | .treemap _ tiles title => { screen with tiles, title }
  | .page url => { screen with pages := screen.pages ++ [url] }

def applyAll (screen : Screen) (paints : List Paint) : Screen :=
  paints.foldl apply screen

theorem applyAll_append (screen : Screen) (first second : List Paint) :
    screen.applyAll (first ++ second) = (screen.applyAll first).applyAll second := by
  simp [applyAll]

end Screen

/-- One thing that a step does to the outside. -/
inductive Effect (Announcement : Type) where
  | note (note : Note)
  | paint (paint : Paint)
  | address (fragment : String)
  | announced (announcement : Announcement)

namespace Effect

variable {Announcement : Type}

def paint? : Effect Announcement -> Option Paint
  | .paint command => some command
  | _ => none

def announcement? : Effect Announcement -> Option Announcement
  | .announced event => some event
  | _ => none

end Effect

end MutationViewer
