import TagQuery.Number.Binary64

/-!
Whole numbers in hexadecimal digits.
-/

namespace TagQuery.Number

/-- The value of a digit of either case. -/
def hexDigit? (digit : Char) : Option Nat :=
  if digit.isDigit then some (digit.toNat - '0'.toNat)
  else if 'a' ≤ digit ∧ digit ≤ 'f' then some (digit.toNat - 'a'.toNat + 10)
  else if 'A' ≤ digit ∧ digit ≤ 'F' then some (digit.toNat - 'A'.toNat + 10)
  else none

def readHex? (digits : List Char) : Option Nat :=
  digits.foldlM (fun value digit => (hexDigit? digit).map (16 * value + ·)) 0

/-- The bytes that pairs of digits stand for. -/
def readBytes? : List Char → Option (List UInt8)
  | [] => some []
  | [_] => none
  | high :: low :: rest => do
    let byte ← readHex? [high, low]
    return UInt8.ofNat byte :: (← readBytes? rest)

/-- Lower-case digits, with zeros before them up to a width. -/
def writeHex (width value : Nat) : List Char :=
  let digits := Nat.toDigits 16 value
  List.replicate (width - digits.length) '0' ++ digits

/-- The bits of a number as sixteen digits. -/
def Binary64.toHex (number : Binary64) : String :=
  String.ofList (writeHex 16 number.bits.toNat)

/-- The number whose bits have the given digits. -/
def Binary64.ofHex? (digits : String) : Option Binary64 :=
  (readHex? digits.toList).map fun bits => ⟨UInt64.ofNat bits⟩

end TagQuery.Number
