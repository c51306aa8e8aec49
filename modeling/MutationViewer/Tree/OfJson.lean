import MutationViewer.Dataset
import MutationViewer.Tree.Basic

/-!
# Reading a tree

A node is an object with a name.  It is a folder when it has children, even if
there are none in the list; `null` counts as absent for children, scores and
lines alike.  The children are read before the node's own values.
-/

namespace MutationViewer
namespace Tree

open Dataset

/-- A field that is neither absent nor `null`. -/
def presentField? (name : String) (fields : List (String × Json)) : Option Json :=
  match Json.lookup? name fields with
  | some .null => none
  | found => found

def readOptional {Value : Type} (read : Json -> Except Numeral.Fault Value)
    (field : Option Json) : Except Fault (Option Value) :=
  match field with
  | none => .ok none
  | some value => (ofNumeral (read value)).map some

def readEntry (name : Json) (fields : List (String × Json)) : Except Fault Entry := do
  let score <- readOptional Numeral.toFloat (presentField? "score" fields)
  let lines <- readOptional Numeral.toInt (presentField? "locs" fields)
  return ⟨name.asText, score, lines⟩

/-- A node with its children, if it has any. -/
def assemble (entry : Entry) : Option (List Tree) -> Tree
  | none => file entry
  | some children => folder entry children

/-- Children that are not in a list are texts, and no text is a node. -/
def readLooseChildren (value : Json) : Except Fault (Option (List Tree)) := do
  match <- items value with
  | [] => return some []
  | first :: _ => throw (.defect (.nodeWithoutName first))

mutual

/-- Read a node and everything below it. -/
def ofJson : Json -> Except Fault Tree
  | .object fields =>
      match Json.lookup? "name" fields with
      | none => .error (.defect (.nodeWithoutName (.object fields)))
      | some name => do
          let children <- readChildrenField fields
          let entry <- readEntry name fields
          return assemble entry children
  | node => .error (.defect (.nodeWithoutName node))

/-- Read the children from the first field of their name. -/
def readChildrenField : List (String × Json) -> Except Fault (Option (List Tree))
  | [] => .ok none
  | (name, value) :: fields =>
      if name = "children" then readChildren value else readChildrenField fields

def readChildren : Json -> Except Fault (Option (List Tree))
  | .null => .ok none
  | .list nodes => (readNodes nodes).map some
  | value => readLooseChildren value

def readNodes : List Json -> Except Fault (List Tree)
  | [] => .ok []
  | node :: nodes => do
      let tree <- ofJson node
      let trees <- readNodes nodes
      return tree :: trees

end

end Tree
end MutationViewer
