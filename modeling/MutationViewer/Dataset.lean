
import MutationViewer.Decimal
import MutationViewer.Text.Characters

/-!
# Reading datasets

The datasets are JSON.  Objects keep the order of their fields, and whole numbers are kept
apart from the numbers written with a point or an exponent, because both show in messages and
in the reports themselves.  A message shows the value it refuses: text is quoted, lists and
objects stand in brackets and braces, and the three constants have names of their own.  Where a
value is used as text, for an identifier or a label, text stands for itself and every other
value is written as in a message.

Counts and scores may be given as numbers, as booleans, or as text.  In text the digits of every
script count, single underscores may stand between digits, and blanks may stand around the
whole.  The information separators U+001C to U+001F, blank elsewhere, are not allowed around a
number.

A dataset that is refused on its content has a defect, and the defect has a message.  A value
that cannot even be used as the reader has to use it, or that is no number where one is needed,
ends the reading in another way; the two are kept apart, since only defects are worded.  Records
are wanted, but anything may stand in their place.  Going through a text yields its characters
and through an object its field names; looking for a name finds a field of an object, a piece of
a text, and an item of a list.
-/

namespace MutationViewer

/-- A JSON value.  An integer of a dataset has at most `Numeral.digitLimit` digits, since
whatever decodes a dataset refuses longer ones. -/
inductive Json where
  | null
  | bool (value : Bool)
  | int (value : Int)
  | float (value : Float)
  | text (value : String)
  | list (items : List Json)
  | object (fields : List (String × Json))
deriving Inhabited

namespace Json

/-- The value of the first field of a name. -/
def lookup? (name : String) (fields : List (String × Json)) : Option Json :=
  (fields.find? fun field => field.1 == name).map Prod.snd

theorem lookup?_cons (name : String) (field : String × Json) (fields : List (String × Json)) :
    lookup? name (field :: fields) =
      if field.1 = name then some field.2 else lookup? name fields := by
  by_cases same : field.1 = name <;> simp [lookup?, same]

def isText (wanted : String) : Json -> Bool
  | .text value => value == wanted
  | _ => false

def commas (pieces : List String) : String :=
  String.intercalate ", " pieces

mutual

/-- The value as a message shows it. -/
def literal : Json -> String
  | .null => "None"
  | .bool true => "True"
  | .bool false => "False"
  | .int value => Decimal.intText value
  | .float value => Decimal.floatText value
  | .text value => Text.quoted value
  | .list items => "[" ++ commas (itemLiterals items) ++ "]"
  | .object fields => "\x7b" ++ commas (fieldLiterals fields) ++ "\x7d"

def itemLiterals : List Json -> List String
  | [] => []
  | item :: items => literal item :: itemLiterals items

def fieldLiterals : List (String × Json) -> List String
  | [] => []
  | (name, value) :: fields => (Text.quoted name ++ ": " ++ literal value) :: fieldLiterals fields

end

theorem itemLiterals_eq_map (items : List Json) : itemLiterals items = items.map literal := by
  induction items with
  | nil => simp [itemLiterals]
  | cons item items ih => simp [itemLiterals, ih]

theorem fieldLiterals_eq_map (fields : List (String × Json)) :
    fieldLiterals fields =
      fields.map fun field => Text.quoted field.1 ++ ": " ++ literal field.2 := by
  induction fields with
  | nil => simp [fieldLiterals]
  | cons field fields ih => simp [fieldLiterals, ih]

/-- The value used as text. -/
def asText : Json -> String
  | .text value => value
  | other => literal other

end Json

namespace Numeral

/-- Why a value is not the number that was asked for. -/
inductive Fault where
  | wrongKind
  | malformed
  | infinite
  | tooLarge
deriving DecidableEq, Repr

/-- What numeral text is made of, once scripts and blanks are told apart. -/
inductive Mark where
  | digit (value : Nat)
  | blank
  | other (character : Char)
deriving DecidableEq

/-- Blanks around a numeral exclude the information separators. -/
def mark (character : Char) : Mark :=
  match Text.digitValue? character with
  | some value => .digit value
  | none =>
      if Text.isBlank character && !(decide (0x1C ≤ character.toNat) && decide (character.toNat ≤ 0x1F))
      then .blank
      else .other character

/-- The marks of a text without the blanks at either end. -/
def marks (text : String) : List Mark :=
  let all := (text.toList.map mark).dropWhile fun found => found == .blank
  (all.reverse.dropWhile fun found => found == .blank).reverse

/-- Split a sign off; without one the number is not negative. -/
def takeSign : List Mark -> Bool × List Mark
  | .other '-' :: rest => (true, rest)
  | .other '+' :: rest => (false, rest)
  | all => (false, all)

/-- Digits with single underscores between them, and what follows. -/
def takeDigits : List Mark -> List Nat × List Mark
  | .digit value :: .other '_' :: .digit next :: rest =>
      let (digits, after) := takeDigits (.digit next :: rest)
      (value :: digits, after)
  | .digit value :: rest =>
      let (digits, after) := takeDigits rest
      (value :: digits, after)
  | all => ([], all)

def ofDigits (digits : List Nat) : Nat :=
  digits.foldl (fun number digit => 10 * number + digit) 0

/-- More digits than this are refused in a whole number. -/
def digitLimit : Nat := 4300

def readInt (text : String) : Except Fault Int :=
  let (negative, unsigned) := takeSign (marks text)
  match takeDigits unsigned with
  | ([], _) => .error .malformed
  | (digits, []) =>
      if digitLimit < digits.length then .error .malformed
      else
        let magnitude : Int := ofDigits digits
        .ok (if negative then -magnitude else magnitude)
  | _ => .error .malformed

/-- The exponent behind the digits of a decimal, zero if there is none. -/
def takeExponent : List Mark -> Int × List Mark
  | .other letter :: rest =>
      if letter = 'e' || letter = 'E' then
        let (negative, unsigned) := takeSign rest
        match takeDigits unsigned with
        | ([], _) => (0, .other letter :: rest)
        | (digits, after) =>
            let magnitude : Int := ofDigits digits
            (if negative then -magnitude else magnitude, after)
      else (0, .other letter :: rest)
  | all => (0, all)

/-- The double nearest to `0.d₁d₂… · 10 ^ point`.  Far outside the range of
the doubles the answer is known without forming the power. -/
def floatOfDigits (negative : Bool) (digits : List Nat) (point : Int) : Float :=
  let significant := digits.dropWhile fun digit => digit == 0
  let place := point - ((digits.length : Int) - (significant.length : Int))
  if significant.isEmpty || place < -400 then Decimal.nearestFloat negative 0 1
  else if 400 < place then Decimal.infinity negative
  else
    let shift := place - (significant.length : Int)
    Decimal.nearestFloat negative (ofDigits significant * Nat.pow 10 shift.toNat)
      (Nat.pow 10 (-shift).toNat)

/-- Digits with a point among, before or behind them, and an exponent. -/
def takeDecimal (negative : Bool) (unsigned : List Mark) : Option (Float × List Mark) :=
  let (whole, afterWhole) := takeDigits unsigned
  let (fraction, afterFraction) :=
    match afterWhole with
    | .other '.' :: rest => takeDigits rest
    | _ => ([], afterWhole)
  if whole.isEmpty && fraction.isEmpty then none
  else
    let (exponent, after) := takeExponent afterFraction
    some (floatOfDigits negative (whole ++ fraction) ((whole.length : Int) + exponent), after)

/-- The words for the numbers that have no digits, in any case. -/
def wordValue? (negative : Bool) (word : List Mark) : Option Float :=
  let letters := word.map fun found =>
    match found with
    | .other character => character.toLower
    | _ => ' '
  if letters = "inf".toList || letters = "infinity".toList then some (Decimal.infinity negative)
  else if letters = "nan".toList then some Decimal.notANumber
  else none

def readFloat (text : String) : Except Fault Float :=
  let (negative, unsigned) := takeSign (marks text)
  match takeDecimal negative unsigned with
  | some (value, []) => .ok value
  | some _ => .error .malformed
  | none =>
      match wordValue? negative unsigned with
      | some value => .ok value
      | none => .error .malformed

def ofBool (value : Bool) : Int :=
  if value then 1 else 0

/-- A value as a whole number; a fraction is cut off. -/
def toInt : Json -> Except Fault Int
  | .int value => .ok value
  | .bool value => .ok (ofBool value)
  | .text value => readInt value
  | .float value =>
      match Decimal.Exact.ofFloat value with
      | .finite negative mantissa exponent => .ok (Decimal.integerPart negative mantissa exponent)
      | .infinite _ => .error .infinite
      | .notANumber => .error .malformed
  | _ => .error .wrongKind

def ofInt (number : Int) : Except Fault Float :=
  match Decimal.floatOfInt? number with
  | some value => .ok value
  | none => .error .tooLarge

def toFloat : Json -> Except Fault Float
  | .float value => .ok value
  | .int value => ofInt value
  | .bool value => ofInt (ofBool value)
  | .text value => readFloat value
  | _ => .error .wrongKind

end Numeral

namespace Dataset

/-- The two fields of a mutant that may be given as an index into labels. -/
inductive LabelKind where
  | status
  | kindGroup
deriving DecidableEq, Repr

def LabelKind.name : LabelKind -> String
  | .status => "status"
  | .kindGroup => "kind group"

/-- What a dataset is refused for. -/
inductive Defect where
  | notObject
  | noLocations
  | mutantWithoutId (record : Json)
  | invalidLabel (kind : LabelKind) (value : Json)
  | labelOutOfRange (kind : LabelKind) (index : Int)
  | locationWithoutId (record : Json)
  | duplicateLocation (id : String)
  | invalidKillCount (testCase : String) (count : Json)
  | nodeWithoutName (node : Json)

def Defect.message : Defect -> String
  | .notObject => "dataset must be a mapping"
  | .noLocations => "dataset has no locations"
  | .mutantWithoutId record => "mutant without id: " ++ record.literal
  | .invalidLabel kind value => "invalid " ++ kind.name ++ ": " ++ value.literal
  | .labelOutOfRange kind index =>
      kind.name ++ " index " ++ Decimal.intText index ++ " out of range"
  | .locationWithoutId record => "location without id: " ++ record.literal
  | .duplicateLocation id => "duplicate location id " ++ Text.quoted id
  | .invalidKillCount testCase count =>
      "test case " ++ testCase ++ ": invalid kill count " ++ count.literal
  | .nodeWithoutName node => "treemap node without name: " ++ node.literal

/-- A use that a value does not support: going through its items, looking for
something in it, taking a field out of it, merging its fields into a record,
and asking it for fields that may be absent. -/
inductive Use where
  | items
  | search
  | field
  | merge
  | fields
deriving DecidableEq, Repr

/-- How the reading of a dataset can fail. -/
inductive Fault where
  | defect (defect : Defect)
  | unsupported (use : Use)
  | numeral (fault : Numeral.Fault)

def ofNumeral {Value : Type} : Except Numeral.Fault Value -> Except Fault Value
  | .ok value => .ok value
  | .error fault => .error (.numeral fault)

def occursIn (part : List Char) : List Char -> Bool
  | [] => part.isEmpty
  | character :: rest => part.isPrefixOf (character :: rest) || occursIn part rest

theorem occursIn_eq_true_iff (part text : List Char) :
    occursIn part text = true ↔ part <:+: text := by
  induction text with
  | nil => simp [occursIn]
  | cons character rest ih =>
      simp only [occursIn, Bool.or_eq_true, ih, List.isPrefixOf_iff_prefix]
      exact List.infix_cons_iff.symm

def items : Json -> Except Fault (List Json)
  | .list values => .ok values
  | .text value => .ok (value.toList.map fun character => .text (String.singleton character))
  | .object fields => .ok (fields.map fun field => .text field.1)
  | _ => .error (.unsupported .items)

/-- The items of a value, each used as text. -/
def itemTexts (value : Json) : Except Fault (List String) :=
  (items value).map fun values => values.map Json.asText

/-- Whether a name is found in a value. -/
def mentions (name : String) : Json -> Except Fault Bool
  | .object fields => .ok (Json.lookup? name fields).isSome
  | .text value => .ok (occursIn name.toList value.toList)
  | .list values => .ok (values.any fun item => item.isText name)
  | _ => .error (.unsupported .search)

def fieldsOf : Json -> Except Fault (List (String × Json))
  | .object fields => .ok fields
  | _ => .error (.unsupported .fields)

/-- A field of an object, or what stands for it when it is absent. -/
def fieldOr (name : String) (default : Json) (fields : List (String × Json)) : Json :=
  (Json.lookup? name fields).getD default

def noItems : Json := .list []

theorem itemTexts_list (values : List Json) :
    itemTexts (.list values) = .ok (values.map Json.asText) := rfl

end Dataset
end MutationViewer
