import TagQuery.Text.Identifier

/-!
The unquoted scalars of TOML: truth values, integers, floats, dates and times. Nothing in
this library needs the value of one, so no more is asked of a text than that it is taken
for one: floats, dates and times are checked in full, but the prefix of a base needs no
digits after it, and a decimal integer with underscores is looked at only up to the first
of them and beside the others.
-/

namespace TagQuery.Toml

def isHexDigit (character : Char) : Bool :=
  character.isDigit || ('a' ≤ character && character ≤ 'f') ||
    ('A' ≤ character && character ≤ 'F')

def withoutSign : List Char → List Char
  | '+' :: text => text
  | '-' :: text => text
  | text => text

/-- Whether underscores stand only between digits. -/
def areJoined (isDigit : Char → Bool) (text : List Char) : Bool :=
  match Text.splitOnChar '_' text with
  | [] | [_] => true
  | parts =>
    parts.tail.all (·.head?.any isDigit) && parts.dropLast.all (·.getLast?.any isDigit)

/-- Digits of a base, if any. -/
def areDigits (isDigit : Char → Bool) (text : List Char) : Bool :=
  text.all (fun character => isDigit character || character == '_') && areJoined isDigit text

def isFloatMark (character : Char) : Bool :=
  character == '.' || character == 'e' || character == 'E'

/-- A decimal integer, of which the first digit is zero only when it stands alone. -/
def isDecimal (text : List Char) : Bool :=
  let magnitude := withoutSign text
  match magnitude.dropWhile Char.isDigit with
  | [] => magnitude == ['0'] || magnitude.head?.any (· != '0')
  | '_' :: rest =>
    magnitude.head? != some '0' && !rest.any (fun character => isFloatMark character ||
      character == ' ') && areJoined isHexDigit magnitude
  | _ => false

def isInteger (text : List Char) : Bool :=
  match text with
  | '0' :: 'x' :: digits => areDigits isHexDigit digits
  | '0' :: 'o' :: digits => areDigits (fun digit => '0' ≤ digit && digit ≤ '7') digits
  | '0' :: 'b' :: digits => areDigits (fun digit => digit == '0' || digit == '1') digits
  | _ => isDecimal text

/-- Digits and underscores, at least one digit among them, and what follows them. -/
def splitDigits? (text : List Char) : Option (List Char × List Char) :=
  let run := text.takeWhile fun character => character.isDigit || character == '_'
  if run.any Char.isDigit then some (run, text.drop run.length) else none

/-- What follows a whole part. -/
def afterWhole? (text : List Char) : Option (List Char) := do
  let (run, rest) ← splitDigits? text
  guard (run.head? ≠ some '0' ∨ run.countP Char.isDigit = 1)
  return rest

/-- What follows a fraction, which may be missing. -/
def afterFraction? : List Char → Option (List Char)
  | '.' :: text => (splitDigits? text).map Prod.snd
  | text => some text

/-- What follows an exponent, which may be missing. -/
def afterExponent? : List Char → Option (List Char)
  | 'e' :: text | 'E' :: text => (splitDigits? (withoutSign text)).map Prod.snd
  | text => some text

def isFloat (text : List Char) : Bool :=
  let magnitude := withoutSign text
  if magnitude = "inf".toList ∨ magnitude = "nan".toList then true
  else
    magnitude.any isFloatMark && areJoined Char.isDigit magnitude &&
      (afterWhole? magnitude >>= afterFraction? >>= afterExponent?) == some []

/-- The value of a fixed number of digits and what follows them. -/
def readDigits? (count : Nat) (text : List Char) : Option (Nat × List Char) :=
  let digits := text.take count
  if digits.length = count ∧ digits.all Char.isDigit then
    some (Nat.ofDigitChars 10 digits 0, text.drop count)
  else none

def isLeapYear (year : Nat) : Bool :=
  year % 4 == 0 && (year % 100 != 0 || year % 400 == 0)

def daysOfMonth (year month : Nat) : Nat :=
  if month = 2 then (if isLeapYear year then 29 else 28)
  else if month = 4 ∨ month = 6 ∨ month = 9 ∨ month = 11 then 30
  else 31

/-- What follows a date. -/
def afterDate? (text : List Char) : Option (List Char) := do
  let (year, rest) ← readDigits? 4 text
  guard (rest.head? = some '-')
  let (month, rest) ← readDigits? 2 (rest.drop 1)
  guard (rest.head? = some '-')
  let (day, rest) ← readDigits? 2 (rest.drop 1)
  guard (1 ≤ month ∧ month ≤ 12 ∧ 1 ≤ day ∧ day ≤ daysOfMonth year month)
  return rest

/-- What follows hours and minutes. -/
def afterMinutes? (text : List Char) : Option (List Char) := do
  let (hour, rest) ← readDigits? 2 text
  guard (rest.head? = some ':')
  let (minute, rest) ← readDigits? 2 (rest.drop 1)
  guard (hour < 24 ∧ minute < 60)
  return rest

/-- What follows seconds and their fraction, either of which may be missing. -/
def afterSeconds? (text : List Char) : Option (List Char) := do
  match text with
  | ':' :: seconds =>
    let (second, rest) ← readDigits? 2 seconds
    guard (second ≤ 60)
    match rest with
    | '.' :: fraction =>
      guard ((fraction.head?.map Char.isDigit).getD false)
      return fraction.dropWhile Char.isDigit
    | _ => return rest
  | _ => return text

def isTime (text : List Char) : Bool :=
  (afterMinutes? text >>= afterSeconds?) == some []

/-- A distance from universal time, or none for local time. -/
def isOffset (text : List Char) : Bool :=
  match text with
  | [] => true
  | ['Z'] | ['z'] => true
  | '+' :: distance | '-' :: distance => afterMinutes? distance == some []
  | _ => false

def isDateSeparator (character : Char) : Bool :=
  character == 'T' || character == 't' || character == ' '

def isDateTime (text : List Char) : Bool :=
  match afterDate? text with
  | some [] => true
  | some (separator :: time) =>
    isDateSeparator separator && ((afterMinutes? time >>= afterSeconds?).map isOffset).getD false
  | none => isTime text

def isScalar (text : List Char) : Bool :=
  text = "true".toList || text = "false".toList || isInteger text || isFloat text ||
    isDateTime text

end TagQuery.Toml
