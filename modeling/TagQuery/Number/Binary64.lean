/-!
Binary floating-point numbers of 64 bits, as their bits: what a number is, and the
number nearest to a whole one.
-/

namespace TagQuery.Number

/-- A number by its bits, so that zeros of either sign and all NaNs stay apart. -/
structure Binary64 where
  bits : UInt64
deriving DecidableEq, Repr

namespace Binary64

/-- What the bits mean. A finite number has magnitude `significand * 2 ^ exponent`. -/
inductive Meaning where
  | nan
  | infinite (negative : Bool)
  | finite (negative : Bool) (significand : Nat) (exponent : Int)
deriving DecidableEq, Repr

def isNegative (number : Binary64) : Bool :=
  Nat.pow 2 63 ≤ number.bits.toNat

/-- The eleven exponent bits. -/
def biasedExponent (number : Binary64) : Nat :=
  number.bits.toNat / Nat.pow 2 52 % Nat.pow 2 11

/-- The fifty-two bits after the leading one, which is not stored. -/
def fraction (number : Binary64) : Nat :=
  number.bits.toNat % Nat.pow 2 52

def meaning (number : Binary64) : Meaning :=
  if number.biasedExponent = Nat.pow 2 11 - 1 then
    if number.fraction = 0 then .infinite number.isNegative else .nan
  else if number.biasedExponent = 0 then
    .finite number.isNegative number.fraction (-1074)
  else
    .finite number.isNegative (Nat.pow 2 52 + number.fraction)
      ((number.biasedExponent : Int) - 1075)

/-- `value / 2 ^ shift` rounded to the nearest whole number, a half to the even one. -/
def shiftRoundingToEven (value shift : Nat) : Nat :=
  let unit := Nat.pow 2 shift
  let below := value / unit
  let rest := 2 * (value % unit)
  if unit < rest ∨ (rest = unit ∧ below % 2 = 1) then below + 1 else below

/-- The magnitude bits nearest to a whole number below `2 ^ 1023`. A significand that
rounds up to the next power of two carries into the exponent. -/
def magnitudeBits (value : Nat) : Nat :=
  if value = 0 then 0
  else
    let length := value.log2
    let significand :=
      if length ≤ 52 then value * Nat.pow 2 (52 - length)
      else shiftRoundingToEven value (length - 52)
    (length + 1023) * Nat.pow 2 52 + (significand - Nat.pow 2 52)

/-- The number nearest to a word, ties going to the even significand. -/
def ofInt64 (value : Int64) : Binary64 :=
  let sign := if value.toInt < 0 then Nat.pow 2 63 else 0
  ⟨UInt64.ofNat (sign + magnitudeBits value.toInt.natAbs)⟩

end Binary64

end TagQuery.Number
