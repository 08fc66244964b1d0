import TagQuery.Number.Binary64

/-!
The shortest decimal text that reads back as a given binary number, always positional.

A decimal grid is the set of multiples of one power of ten. The coarsest grid with a
point among the numbers that round to the given one fixes how many digits are written;
of two such points the nearer is written, and the upper one when both are equally near.
-/

namespace TagQuery.Number

/-- The magnitudes that round to one binary number, over a common denominator. -/
structure RoundingInterval where
  low : Nat
  value : Nat
  high : Nat
  denominator : Nat
  closed : Bool
deriving DecidableEq, Repr

namespace RoundingInterval

/-- Half a step to either side, but a quarter below a power of two, where the steps
change width. The ends round inwards exactly when the significand is even. -/
def ofFinite (significand : Nat) (exponent : Int) : RoundingInterval :=
  let below := if significand = Nat.pow 2 52 ∧ exponent ≠ -1074 then 1 else 2
  let scale := Nat.pow 2 exponent.toNat
  { low := (4 * significand - below) * scale
    value := 4 * significand * scale
    high := (4 * significand + 2) * scale
    denominator := 4 * Nat.pow 2 (-exponent).toNat
    closed := significand % 2 = 0 }

/-- The interval in units of `10 ^ exponent`. -/
def inUnits (interval : RoundingInterval) (exponent : Int) : RoundingInterval :=
  let scale := Nat.pow 10 (-exponent).toNat
  { interval with
    low := interval.low * scale
    value := interval.value * scale
    high := interval.high * scale
    denominator := interval.denominator * Nat.pow 10 exponent.toNat }

/-- Whether a whole number lies in the interval. -/
def contains (interval : RoundingInterval) (point : Nat) : Bool :=
  let position := point * interval.denominator
  if interval.closed then interval.low ≤ position && position ≤ interval.high
  else interval.low < position && position < interval.high

/-- The whole number of the interval that is nearest to its value, looked for beside
the value only: a point farther away lies in the interval only if one of these does. -/
def nearest? (interval : RoundingInterval) : Option Nat :=
  let below := interval.value / interval.denominator
  let above := below + 1
  let toBelow := interval.value - below * interval.denominator
  let toAbove := above * interval.denominator - interval.value
  match interval.contains below, interval.contains above with
  | true, true => some (if toBelow < toAbove then below else above)
  | true, false => some below
  | false, true => some above
  | false, false => none

/-- Try grids from a coarse one on, each ten times finer than the one before. -/
def search (interval : RoundingInterval) : Nat → Int → Nat × Int
  | 0, exponent => (0, exponent)
  | steps + 1, exponent =>
    match (interval.inUnits exponent).nearest? with
    | some digits => (digits, exponent)
    | none => search interval steps (exponent - 1)

end RoundingInterval

/-- The digits and the decimal exponent of the shortest magnitude that reads back. No
finite number is above `10 ^ 309`, and the finest step is above `10 ^ -324`. -/
def shortestDigits (significand : Nat) (exponent : Int) : Nat × Int :=
  (RoundingInterval.ofFinite significand exponent).search 640 310

/-- Digits times a power of ten, written without an exponent. -/
def positional (digits : Nat) (exponent : Int) : List Char :=
  let written := Nat.toDigits 10 digits
  if 0 ≤ exponent then written ++ List.replicate exponent.toNat '0'
  else
    let places := (-exponent).toNat
    if places < written.length then
      written.take (written.length - places) ++ '.' :: written.drop (written.length - places)
    else
      '0' :: '.' :: List.replicate (places - written.length) '0' ++ written

def magnitudeText (significand : Nat) (exponent : Int) : List Char :=
  if significand = 0 then ['0']
  else
    let (digits, power) := shortestDigits significand exponent
    positional digits power

/-- A minus stands before every negative number, zero and infinity included. -/
def signed (negative : Bool) (magnitude : List Char) : String :=
  String.ofList (if negative then '-' :: magnitude else magnitude)

def Binary64.text (number : Binary64) : String :=
  match number.meaning with
  | .nan => "NaN"
  | .infinite negative => signed negative ['i', 'n', 'f']
  | .finite negative significand exponent => signed negative (magnitudeText significand exponent)

end TagQuery.Number
