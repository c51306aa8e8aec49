import MutationViewer.Decimal
import MutationViewer.Screen.Basic

/-!
# The screen as text

Both views can be printed.  A view ends with an empty line, so that its text ends with a line
feed.  A cell of a column is filled up with spaces on its right: widths count code points, and
a text that is wider than its column is never cut.
-/

namespace MutationViewer
namespace Text

/-- The text, filled up with spaces to a width. -/
def padRight (width : Nat) (text : String) : String :=
  text ++ String.ofList (List.replicate (width - text.length) ' ')

theorem length_padRight (width : Nat) (text : String) :
    (padRight width text).length = max width text.length := by
  simp [padRight]
  omega

/-- A line of one repeated character. -/
def rule (width : Nat) (character : Char) : String :=
  String.ofList (List.replicate width character)

/-- Lines as one text, with a line feed between neighbours. -/
def unlines (lines : List String) : String :=
  String.intercalate "\n" lines

end Text

namespace Screen

def ruleWidth : Nat := 70

def optionWidth : Nat := 40

def nameWidth : Nat := 30

def scoreWidth : Nat := 20

/-- An entry of the picker is marked when it is the active one. -/
def marker (active : Bool) : String :=
  if active then "  * " else "    "

def candidateLine (activeId : Option String) (mutant : Mutant) : String :=
  marker (activeId == some mutant.id) ++
    Text.padRight optionWidth mutant.pickerText ++ " " ++ mutant.status

/-- The lines of the info panel, none if no mutant is shown. -/
def infoLines : Option InfoPanel -> List String
  | none => []
  | some info =>
      ["Status:   " ++ info.status,
       "Metadata: " ++ info.metadata,
       "Id:       " ++ info.id,
       "Original: " ++ info.replaced] ++
      (info.testCases.map fun count =>
        "  -> " ++ count.1 ++ ": " ++ Decimal.intText count.2) ++
      [""]

def locationName : Option Location -> String
  | some location => location.id
  | none => "-"

/-- The source view: location, picker and info panel. -/
def sourceText (screen : Screen) : String :=
  Text.unlines (
    [Text.rule ruleWidth '=',
     "Location: " ++ locationName screen.location,
     Text.rule ruleWidth '=',
     marker screen.activeId.isNone ++ "none"] ++
    screen.candidates.map (candidateLine screen.activeId) ++
    [""] ++
    infoLines screen.info)

/-- The score of a tile.  The mean of a folder is rounded to two places. -/
def scoreText (tile : Tile) : String :=
  if tile.node.isFolder then
    "avg score: " ++ Decimal.floatText (Decimal.roundToHundredths tile.score)
  else "score: " ++ Decimal.floatText tile.score

def linesText (tile : Tile) : String :=
  (if tile.node.isFolder then "total locs: " else "locs: ") ++ Decimal.intText tile.lines

/-- One tile in a line; the name of a folder ends with a slash. -/
def tileLine (tile : Tile) : String :=
  "  " ++ Text.padRight nameWidth (tile.node.name ++ (if tile.node.isFolder then "/" else "")) ++
    " " ++ Text.padRight scoreWidth (scoreText tile) ++ " " ++ linesText tile

/-- The treemap view: its title and a line for each tile. -/
def treemapText (screen : Screen) : String :=
  Text.unlines (
    [screen.title, Text.rule ruleWidth '-'] ++ screen.tiles.map tileLine ++ [""])

end Screen

end MutationViewer
