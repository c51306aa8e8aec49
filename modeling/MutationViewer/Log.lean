import MutationViewer.Text.Characters

/-!
# The log

What is ignored, dropped or switched is not an error, but it is noted.  A note is kept as its
cause; the channel it belongs to and its wording are functions of that.

The viewer's logger starts without a handler.  The first configuration installs one with the
format given, and later ones change the level only.  A format that shows no part of a record is
refused before anything is installed; an unknown level is noticed only afterwards.
-/

namespace MutationViewer
/-- Something worth a line in the log. -/
inductive Note where
  | droppedMutant (location mutant : String)
  | kindGroupSwitched (kindGroup : String) (excluded : Bool)
  | statusSwitched (status : String) (excluded : Bool)
  | unknownLocation (id : String)
  | notCandidate (mutant location : String)
  | unknownMutant (id : String)
  | filteredOut (id : String)
  | ignoredFragment (fragment : String)
  | notChild (name title : String)
  | unknownAddress (fragment : String)
deriving DecidableEq, Repr

namespace Note

def channel : Note -> String
  | .droppedMutant .. => "dataset"
  | .kindGroupSwitched .. | .statusSwitched .. => "filters"
  | .unknownLocation _ | .notCandidate .. | .unknownMutant _ | .filteredOut _ => "selection"
  | .ignoredFragment _ => "address"
  | .notChild .. | .unknownAddress _ => "treemap"

/-- The logger above all channels of the viewer. -/
def family : String := "mutant_navigator"

def logger (note : Note) : String :=
  family ++ "." ++ note.channel

/-- The word for the new state of a filter value. -/
def switchWord (excluded : Bool) : String :=
  if excluded then "excluded" else "included"

def message : Note -> String
  | .droppedMutant location mutant =>
      "location " ++ location ++ ": dropping unknown mutant " ++ mutant
  | .kindGroupSwitched kindGroup excluded =>
      "kind group " ++ kindGroup ++ " " ++ switchWord excluded
  | .statusSwitched status excluded => "status " ++ status ++ " " ++ switchWord excluded
  | .unknownLocation id => "select_location: unknown location " ++ Text.quoted id
  | .notCandidate mutant location =>
      "select_mutant: " ++ Text.quoted mutant ++ " is not a candidate of " ++ location
  | .unknownMutant id => "focus_mutant: unknown mutant " ++ Text.quoted id
  | .filteredOut id => "focus_mutant: " ++ Text.quoted id ++ " is filtered out"
  | .ignoredFragment fragment => "ignoring address fragment " ++ Text.quoted fragment
  | .notChild name title => "drill_in: " ++ Text.quoted name ++ " is not a child of " ++ title
  | .unknownAddress fragment =>
      "reconcile: unknown address " ++ Text.quoted fragment ++ ", showing root"

end Note

/-- The level of the viewer's logger and the format of each of its handlers. -/
structure Log where
  level : Int
  formats : List String
deriving DecidableEq, Repr

namespace Log

def unconfigured : Log := ⟨0, []⟩

/-- A level, given as a number or by name. -/
inductive Level where
  | number (value : Int)
  | named (name : String)
deriving DecidableEq, Repr

/-- What is wrong with a configuration. -/
inductive Fault where
  | formatWithoutPlaceholder
  | unknownLevel
deriving DecidableEq, Repr

def levels : List (String × Int) :=
  [("CRITICAL", 50), ("FATAL", 50), ("ERROR", 40), ("WARN", 30), ("WARNING", 30), ("INFO", 20),
   ("DEBUG", 10), ("NOTSET", 0)]

def Level.standard : Level := .number 20

def Level.value? : Level -> Option Int
  | .number value => some value
  | .named name => (levels.find? fun level => level.1 == name).map Prod.snd

def standardFormat : String := "%(asctime)s [%(levelname)s] %(name)s: %(message)s"

/-- The format that stands for the empty one. -/
def plainFormat : String := "%(message)s"

/-- The letters that can end a placeholder, in either case.  The three last ones
are other cases of `i` and `s`. -/
def conversions : List Char :=
  "diouxefgcrsaDIOUXEFGCRSA%\u0130\u0131\u017f".toList

/-- Go past a star or a run of digits, if there is one. -/
def skipAmount : List Char -> List Char
  | '*' :: rest => rest
  | text => text.dropWhile fun character => (Text.digitValue? character).isSome

/-- Go past a point and the amount behind it, if both are there. -/
def skipPrecision : List Char -> List Char
  | '.' :: rest => if (skipAmount rest).length < rest.length then skipAmount rest else '.' :: rest
  | text => text

/-- Whether a text goes on as a placeholder does behind its name: flags, width,
precision and a conversion. -/
def endsPlaceholder (text : List Char) : Bool :=
  let unflagged := text.dropWhile fun character => "#0+ -".toList.contains character
  match skipPrecision (skipAmount unflagged) with
  | character :: _ => conversions.contains character
  | [] => false

/-- Whether a text begins with a placeholder such as `%(name)s`. -/
def beginsPlaceholder : List Char -> Bool
  | '%' :: '(' :: rest =>
      !(rest.takeWhile Text.isNameChar).isEmpty &&
        match rest.dropWhile Text.isNameChar with
        | ')' :: after => endsPlaceholder after
        | _ => false
  | _ => false

def hasPlaceholder : List Char -> Bool
  | [] => false
  | character :: rest => beginsPlaceholder (character :: rest) || hasPlaceholder rest

/-- The formats after a configuration: a handler is installed only if there is
none. -/
def install (log : Log) (format : String) : Except Fault Log :=
  let chosen := if format.isEmpty then plainFormat else format
  if !log.formats.isEmpty then .ok log
  else if hasPlaceholder chosen.toList then .ok { log with formats := [chosen] }
  else .error .formatWithoutPlaceholder

/-- Configure the log.  The log is there also after a fault: what was done
before it stays. -/
def configure (log : Log) (level : Level) (format : String) : Log × Option Fault :=
  match log.install format with
  | .error fault => (log, some fault)
  | .ok installed =>
      match level.value? with
      | some value => ({ installed with level := value }, none)
      | none => (installed, some .unknownLevel)

/-- The name of the logger that a name asks for.  The logger above all others
answers to its own name and to the empty one. -/
def loggerName (name : String) : String :=
  if name.isEmpty then "root" else name

/-- Once a handler is there, its format is never changed. -/
theorem formats_configure (log : Log) (level : Level) (format : String)
    (installed : log.formats.isEmpty = false) :
    (log.configure level format).1.formats = log.formats := by
  unfold configure install
  simp only [installed]
  cases level.value? <;> rfl

end Log

end MutationViewer
