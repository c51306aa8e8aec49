import MutationViewer.Source.View

/-!
# Using the source view

Readers press keys, turn the wheel, click, choose from the picker, switch
filters and edit the address; scripts ask for selections directly.  Every use
is one step, and a step either has an outcome or fails before it has changed
anything.
-/

namespace MutationViewer
namespace SourceView

/-- One use of the view.  Amounts that are traversed by are given as their
direction, if they have one. -/
inductive Step where
  | start
  | goTo (id : String) (preserve : Bool)
  | choose (entry : Option String)
  | jumpTo (id : String)
  | walkLocations (amount : Option Direction)
  | walkMutants (amount : Option Direction) (center : Bool)
  | flip
  | switch (switch : Filters.Switch)
  | key (code : String)
  | wheel (location : Option String) (amount : Option Direction)
  | click (location : Option String)
  | picker (entry : Option String)
  | bar (use : History.Step)
  | restore
  | address (raw : Option String)

/-- A view and what the step that led to it answers. -/
structure Outcome where
  view : SourceView
  answer : Option Bool

inductive KeyAction where
  | location (direction : Direction)
  | mutant (direction : Direction)
  | flip
deriving DecidableEq, Repr

end SourceView

/-- What a key does.  Where a code is bound twice the first binding counts. -/
def Keys.action? (keys : Keys) (code : String) : Option SourceView.KeyAction :=
  if code = keys.nextLocation then some (.location .forward)
  else if code = keys.previousLocation then some (.location .backward)
  else if code = keys.nextMutant then some (.mutant .forward)
  else if code = keys.previousMutant then some (.mutant .backward)
  else if code = keys.flip then some .flip
  else none

namespace SourceView

/-- Carry out a move and answer as it does. -/
def answerMove (view : SourceView) (move : Move) : Outcome :=
  ⟨view.perform move, some move.answer⟩

def traverse (view : SourceView) (amount : Option Direction) (center : Bool) :
    Except Viewer.WalkFault Outcome :=
  (view.viewer.walkMutants amount center).map view.answerMove

/-- Press a key.  A bound key is answered with yes, whatever comes of it. -/
def pressKey (view : SourceView) (code : String) : Except Viewer.WalkFault Outcome :=
  match view.keys.action? code with
  | none => .ok ⟨view, some false⟩
  | some (.location direction) =>
      .ok ⟨view.perform (view.viewer.walkLocations (some direction)), some true⟩
  | some (.mutant direction) =>
      (view.viewer.walkMutants (some direction) true).map fun move =>
        ⟨view.perform move, some true⟩
  | some .flip => .ok ⟨view.perform view.viewer.flip, some true⟩

/-- Turn the wheel over a location.  Only the active one responds. -/
def turnWheel (view : SourceView) (location : Option String) (amount : Option Direction) :
    Except Viewer.WalkFault Outcome :=
  match view.selection.location with
  | none => .ok ⟨view, some false⟩
  | some active =>
      if location = some active.id ∧ amount.isSome then view.traverse amount false
      else .ok ⟨view, some false⟩

/-- The id of the location that a click selects: the one clicked, else the
active one. -/
def clickTarget? (view : SourceView) (location : Option String) : Option String :=
  match location.bind view.viewer.report.location? with
  | some clicked => some clicked.id
  | none => view.selection.location.map Location.id

/-- Click on a location, or beside all of them. -/
def click (view : SourceView) (location : Option String) : Outcome :=
  match view.clickTarget? location with
  | some id => view.answerMove (view.viewer.goTo id false)
  | none => ⟨view, some false⟩

def step (view : SourceView) : Step -> Except Viewer.WalkFault Outcome
  | .start => .ok (view.answerMove view.viewer.start)
  | .goTo id preserve => .ok (view.answerMove (view.viewer.goTo id preserve))
  | .choose entry => .ok (view.answerMove (view.viewer.choose entry))
  | .jumpTo id => .ok (view.answerMove (view.viewer.jumpTo id))
  | .walkLocations amount => .ok (view.answerMove (view.viewer.walkLocations amount))
  | .walkMutants amount center => view.traverse amount center
  | .flip => .ok (view.answerMove view.viewer.flip)
  | .switch value =>
      let (switched, excluded) := view.switch value
      .ok ⟨switched, some excluded⟩
  | .key code => view.pressKey code
  | .wheel location amount => view.turnWheel location amount
  | .click location => .ok (view.click location)
  | .picker entry => .ok (view.answerMove (view.viewer.choose entry))
  | .bar use =>
      let (used, answer) := view.useBar use
      .ok ⟨used, answer⟩
  | .restore => .ok ⟨view.restore, none⟩
  | .address raw => .ok ⟨view.follow raw, none⟩

end SourceView
end MutationViewer
