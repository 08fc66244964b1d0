/-!
Whole numbers as decimal text: an optional sign and ASCII digits. Reading accepts any
number of leading zeros and nothing else around the digits.
-/

namespace TagQuery.Number

/-- The value of a non-empty list of ASCII digits. -/
def readDigits? (digits : List Char) : Option Nat :=
  if !digits.isEmpty && digits.all Char.isDigit then some (Nat.ofDigitChars 10 digits 0)
  else none

/-- The value of digits after at most one sign. -/
def readInt? (text : String) : Option Int :=
  match text.toList with
  | '-' :: digits => (readDigits? digits).map fun magnitude => -(magnitude : Int)
  | '+' :: digits => (readDigits? digits).map fun magnitude => (magnitude : Int)
  | digits => (readDigits? digits).map fun magnitude => (magnitude : Int)

/-- A word of 64 bits, when the value of the text fits in one. -/
def readInt64? (text : String) : Option Int64 :=
  match readInt? text with
  | none => none
  | some value =>
    if Int64.minValue.toInt ≤ value ∧ value ≤ Int64.maxValue.toInt then some (Int64.ofInt value)
    else none

/-- The shortest decimal text of a number: no sign but a minus, no leading zeros. -/
def writeInt (value : Int) : String :=
  match value with
  | .ofNat magnitude => String.ofList (Nat.toDigits 10 magnitude)
  | .negSucc before => String.ofList ('-' :: Nat.toDigits 10 (before + 1))

def writeNat (value : Nat) : String :=
  String.ofList (Nat.toDigits 10 value)

def writeInt64 (value : Int64) : String :=
  writeInt value.toInt

end TagQuery.Number
