/-!
# Doubles and their decimals

A finite double is `mantissa · 2 ^ exponent` units, where the unit is the smallest positive
double, `2 ^ -1074`.  The bits of a double that is not negative are
`exponent · 2 ^ 52 + mantissa`, so a mantissa that rounds up to `2 ^ 53` carries into the
exponent by itself.

A positive double stands for the interval of reals that are nearer to it than to any other
double; the ends belong to it when its mantissa is even.  It is written with the fewest digits
that lie in this interval, and of those with the ones nearest to it.  On the grid of decimals
with a given number of digits only its two neighbours can be the nearest, so each number of
digits costs two tests.  Seventeen digits always suffice.  Doubles are written with a point or
an exponent, so that they never look like counts.
-/

namespace MutationViewer
namespace Decimal

/-- The natural number nearest to `numerator / denominator`, ties going to the
even neighbour. -/
def nearestEven (numerator denominator : Nat) : Nat :=
  let below := numerator / denominator
  let rest := numerator % denominator
  if 2 * rest < denominator then below
  else if denominator < 2 * rest then below + 1
  else if below % 2 = 0 then below
  else below + 1

/-- The answer is at most half a unit away from the quotient. -/
theorem nearestEven_within_half (numerator denominator : Nat) (positive : 0 < denominator) :
    2 * numerator ≤ (2 * nearestEven numerator denominator + 1) * denominator ∧
      2 * nearestEven numerator denominator * denominator ≤ 2 * numerator + denominator := by
  have division := Nat.div_add_mod numerator denominator
  have small := Nat.mod_lt numerator positive
  generalize quotient : numerator / denominator = below at division
  generalize remainder : numerator % denominator = rest at division small
  have unfolded : nearestEven numerator denominator =
      if 2 * rest < denominator then below
      else if denominator < 2 * rest then below + 1
      else if below % 2 = 0 then below
      else below + 1 := by
    simp [nearestEven, quotient, remainder]
  have upper : 2 * numerator = 2 * (below * denominator) + 2 * rest := by
    rw [← division, Nat.mul_comm denominator below]
    omega
  rw [unfolded, upper]
  split
  · constructor <;> simp only [Nat.add_mul, Nat.mul_assoc] <;> omega
  · split
    · constructor <;> simp only [Nat.add_mul, Nat.mul_add, Nat.mul_assoc] <;> omega
    · split <;> constructor <;> simp only [Nat.add_mul, Nat.mul_add, Nat.mul_assoc] <;> omega

/-- The exact meaning of a double. -/
inductive Exact where
  | notANumber
  | infinite (negative : Bool)
  | finite (negative : Bool) (mantissa exponent : Nat)

def unitsInOne : Nat := Nat.pow 2 1074

/-- The first bit pattern beyond the finite doubles. -/
def infinityBits : Nat := 2047 * Nat.pow 2 52

def Exact.ofFloat (value : Float) : Exact :=
  let bits := value.toBits.toNat
  let negative := decide (Nat.pow 2 63 ≤ bits)
  let magnitude := bits % Nat.pow 2 63
  let field := magnitude / Nat.pow 2 52
  let fraction := magnitude % Nat.pow 2 52
  if infinityBits < magnitude then .notANumber
  else if magnitude = infinityBits then .infinite negative
  else if field = 0 then .finite negative fraction 0
  else .finite negative (Nat.pow 2 52 + fraction) (field - 1)

/-- The bits of the double nearest to a quotient, before a sign is put to them:
the mantissa has fifty-three digits unless the quotient is too small for that. -/
def nearestBits (numerator denominator : Nat) : Nat :=
  let units := numerator * unitsInOne / denominator
  let exponent := Nat.log2 units - 52
  exponent * Nat.pow 2 52 +
    nearestEven (numerator * unitsInOne) (denominator * Nat.pow 2 exponent)

/-- Put a sign to bits; what is too large becomes infinite. -/
def signedBits (negative : Bool) (bits : Nat) : Float :=
  Float.ofBits (UInt64.ofNat ((if negative then Nat.pow 2 63 else 0) + min bits infinityBits))

/-- The double nearest to a quotient, ties going to the even mantissa. -/
def nearestFloat (negative : Bool) (numerator denominator : Nat) : Float :=
  signedBits negative (nearestBits numerator denominator)

/-- The double nearest to an integer, if that is finite. -/
def floatOfInt? (number : Int) : Option Float :=
  let bits := nearestBits number.natAbs 1
  if bits < infinityBits then some (signedBits (decide (number < 0)) bits) else none

/-- The integer part of a finite double, rounding toward zero. -/
def integerPart (negative : Bool) (mantissa exponent : Nat) : Int :=
  let magnitude : Nat := mantissa * Nat.pow 2 exponent / unitsInOne
  if negative then -(magnitude : Int) else (magnitude : Int)

def infinity (negative : Bool) : Float :=
  signedBits negative infinityBits

def notANumber : Float :=
  Float.ofBits 0x7FF8000000000000

/-- Digits with a leading point, most significant first: the number
`0.d₁d₂… · 10 ^ point`. -/
structure Digits where
  digits : List Nat
  point : Int

/-- The decimal digits of a natural number, none for zero. -/
def digitsOf (number : Nat) : List Nat :=
  if number = 0 then [] else digitsOf (number / 10) ++ [number % 10]
termination_by number
decreasing_by omega

def dropTrailingZeros (digits : List Nat) : List Nat :=
  (digits.reverse.dropWhile fun digit => digit == 0).reverse

/-- The place of the point in a positive quotient: the least `point` with
`numerator / denominator < 10 ^ point`. -/
def pointOf (numerator denominator : Nat) : Int :=
  if denominator ≤ numerator then ((digitsOf (numerator / denominator)).length : Int)
  else
    let ceiling := (denominator + numerator - 1) / numerator
    1 - ((digitsOf (ceiling - 1)).length : Int)

/-- The interval that reads back as a double, in quarters of the last place of
the mantissa: `lower` to `upper` around `middle`. -/
structure Interval where
  lower : Nat
  middle : Nat
  upper : Nat
  closed : Bool

/-- Below a power of two the neighbouring double is only half as far away. -/
def Interval.ofMantissa (mantissa exponent : Nat) : Interval where
  lower := 4 * mantissa - (if mantissa = Nat.pow 2 52 ∧ exponent ≠ 0 then 1 else 2)
  middle := 4 * mantissa
  upper := 4 * mantissa + 2
  closed := mantissa % 2 == 0

/-- Whether `value` lies in the interval, both sides scaled by the caller. -/
def Interval.holds (interval : Interval) (scale value : Nat) : Bool :=
  if interval.closed then
    decide (interval.lower * scale ≤ value) && decide (value ≤ interval.upper * scale)
  else
    decide (interval.lower * scale < value) && decide (value < interval.upper * scale)

/-- The point of the grid of `count` digits that reads back, if there is one.
The interval is measured in steps of `scale / units`; a grid step is
`10 ^ (point - count)`. -/
def gridPoint? (interval : Interval) (scale units : Nat) (point : Int) (count : Nat) :
    Option Nat :=
  let shift := point - (count : Int)
  let left := scale * Nat.pow 10 (-shift).toNat
  let right := units * Nat.pow 10 shift.toNat
  let below := interval.middle * left / right
  let fits := fun number => interval.holds left (number * right)
  let nearest := nearestEven (interval.middle * left) right
  if fits below && fits (below + 1) then some nearest
  else if fits below then some below
  else if fits (below + 1) then some (below + 1)
  else none

/-- The fewest digits that read back as the positive double
`mantissa · 2 ^ exponent` units. -/
def shortestDigits (mantissa exponent : Nat) : Digits :=
  let interval := Interval.ofMantissa mantissa exponent
  let scale := Nat.pow 2 exponent
  let units := 4 * unitsInOne
  let point := pointOf (interval.middle * scale) units
  let found := (List.range 17).findSome? fun index =>
    (gridPoint? interval scale units point (index + 1)).map fun number => (index + 1, number)
  match found with
  | none => ⟨[], 0⟩
  | some (count, number) =>
      let digits := digitsOf number
      ⟨dropTrailingZeros digits, point + ((digits.length : Int) - (count : Int))⟩

/-- The decisions of a layout: the places of the point for which no exponent is
used, and how many digits an exponent has at least. -/
structure Layout where
  leastPoint : Int
  greatestPoint : Int
  exponentDigits : Nat

/-- Numbers from `0.0001` up to but not including `10 ^ 16` have no exponent. -/
def Layout.score : Layout := ⟨-3, 16, 2⟩

def digitsText (digits : List Nat) : String :=
  String.ofList (digits.map Nat.digitChar)

def zeros (count : Nat) : List Nat :=
  List.replicate count 0

/-- Digits with a point among, before or behind them. -/
def positional (value : Digits) : String :=
  if value.point ≤ 0 then
    "0." ++ digitsText (zeros (-value.point).toNat ++ value.digits)
  else
    let place := value.point.toNat
    let whole := value.digits.take place
    let rest := value.digits.drop place
    digitsText (whole ++ zeros (place - whole.length)) ++ "." ++
      (if rest.isEmpty then "0" else digitsText rest)

/-- One digit, the others behind a point, and a signed exponent. -/
def scientific (layout : Layout) (value : Digits) : String :=
  let exponent := value.point - 1
  let written := digitsOf exponent.natAbs
  let sign := if exponent < 0 then "-" else "+"
  let rest := value.digits.drop 1
  digitsText (value.digits.take 1) ++
    (if rest.isEmpty then "" else "." ++ digitsText rest) ++
    "e" ++ sign ++ digitsText (zeros (layout.exponentDigits - written.length) ++ written)

def Layout.render (layout : Layout) (value : Digits) : String :=
  if layout.leastPoint ≤ value.point ∧ value.point ≤ layout.greatestPoint then positional value
  else scientific layout value

/-- The text of a double.  A zero keeps its sign. -/
def floatText (value : Float) : String :=
  match Exact.ofFloat value with
  | .notANumber => "nan"
  | .infinite negative => if negative then "-inf" else "inf"
  | .finite negative mantissa exponent =>
      (if negative then "-" else "") ++
        (if mantissa = 0 then "0.0"
         else Layout.score.render (shortestDigits mantissa exponent))

def intText (number : Int) : String :=
  let written := digitsOf number.natAbs
  (if number < 0 then "-" else "") ++ digitsText (if written.isEmpty then [0] else written)

/-- The double nearest to a number rounded to two places, ties going to the
even hundredth.  The exact value is rounded, not its text, and the sign stays. -/
def roundToHundredths (value : Float) : Float :=
  match Exact.ofFloat value with
  | .finite negative mantissa exponent =>
      nearestFloat negative (nearestEven (100 * mantissa * Nat.pow 2 exponent) unitsInOne) 100
  | _ => value

end Decimal

end MutationViewer
