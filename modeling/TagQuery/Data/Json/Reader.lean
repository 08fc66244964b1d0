import TagQuery.Data.Basic
import TagQuery.Data.Reader
import TagQuery.Number.Decimal

/-!
Documents in JSON. Every text of the grammar is read, to any depth; escapes of surrogates
that do not pair up are part of the grammar and make a text without content.
-/

namespace TagQuery.Json

open Reader

def isBlank (character : Char) : Bool :=
  character == ' ' || character == '\n' || character == '\t' || character == '\r'

def skipBlank : Reader Unit := discard (takeWhile isBlank)

/-- The code point of an escape by one letter. -/
def letterEscape? : Char → Option Nat
  | '"' => some 0x22
  | '\\' => some 0x5C
  | '/' => some 0x2F
  | 'b' => some 0x08
  | 'f' => some 0x0C
  | 'n' => some 0x0A
  | 'r' => some 0x0D
  | 't' => some 0x09
  | _ => none

/-- One character of a text or one escape, as a code point that may be a surrogate. -/
def unit : Reader Nat := do
  match ← next? with
  | none => failure
  | some '\\' =>
    expect ['\\']
    match ← next? with
    | some 'u' => expect ['u']; hex 4
    | some letter => expect [letter]; (letterEscape? letter).elim failure pure
    | none => failure
  | some character =>
    require (0x20 ≤ character.toNat)
    expect [character]
    return character.toNat

/-- The units up to the closing quote. There are no more of them than characters. -/
def units : Nat → Reader (List Nat)
  | 0 => failure
  | budget + 1 => do
    if ← skip? ['"'] then return []
    let first ← unit
    return first :: (← units budget)

def isLeading (codePoint : Nat) : Bool := 0xD800 ≤ codePoint && codePoint < 0xDC00

def isTrailing (codePoint : Nat) : Bool := 0xDC00 ≤ codePoint && codePoint < 0xE000

/-- Join pairs of surrogates; one without a partner is no character. -/
def joinSurrogates : List Nat → Option (List Char)
  | [] => some []
  | [last] => (charOf? last).map ([·])
  | first :: second :: rest =>
    if isLeading first && isTrailing second then do
      let joined ← charOf? (0x10000 + (first - 0xD800) * 0x400 + (second - 0xDC00))
      return joined :: (← joinSurrogates rest)
    else do
      let character ← charOf? first
      return character :: (← joinSurrogates (second :: rest))

/-- A text after its opening quote. -/
def textRest : Reader (Option String) := do
  let found ← units (← get).length
  return (joinSurrogates found).map String.ofList

def digits : Reader (List Char) := do
  let found ← takeWhile Char.isDigit
  require (!found.isEmpty)
  return found

/-- A fraction after the whole part of a number. -/
def fraction? : Reader Bool := do
  if ← skip? ['.'] then
    discard digits
    return true
  return false

def exponent? : Reader Bool := do
  if (← skip? ['e']) || (← skip? ['E']) then
    if !(← skip? ['+']) then discard (skip? ['-'])
    discard digits
    return true
  return false

/-- A number; only one without fraction and exponent is an integer, and minus zero is
none, as no integer is written so. -/
def number : Reader Data := do
  let negative ← skip? ['-']
  let whole ← digits
  require (whole.length == 1 || whole.head? != some '0')
  let fraction ← fraction?
  let exponent ← exponent?
  let magnitude : Int := Nat.ofDigitChars 10 whole 0
  if fraction || exponent || (negative && magnitude == 0) then return .other
  return .integer (if negative then -magnitude else magnitude)

variable {α : Type}

/-- Elements with commas between them, up to the closing character. -/
def elements (element : Reader α) (close : Char) : Nat → Reader (List α)
  | 0 => failure
  | budget + 1 => do
    skipBlank
    let first ← element
    skipBlank
    if ← skip? [','] then return first :: (← elements element close budget)
    expect [close]
    return [first]

/-- The elements of a list or an object, after its opening character. -/
def body (element : Reader α) (close : Char) : Reader (List α) := do
  skipBlank
  if ← skip? [close] then return []
  elements element close (← get).length

def member (value : Reader Data) : Reader (Option String × Data) := do
  expect ['"']
  let key ← textRest
  skipBlank
  expect [':']
  skipBlank
  return (key, ← value)

/-- A value of limited depth. -/
def value : Nat → Reader Data
  | 0 => failure
  | depth + 1 => do
    if ← skip? ['"'] then return .text (← textRest)
    if ← skip? ['['] then return .list (← body (value depth) ']')
    if ← skip? ['\x7b'] then return .record (← body (member (value depth)) '\x7d')
    if ← skip? "null".toList then return .null
    if ← skip? "true".toList then return .other
    if ← skip? "false".toList then return .other
    number

/-- A document of one value. No value is deeper than its text is long. -/
def read? (text : String) : Option Data :=
  all? (do
    skipBlank
    let document ← value (text.length + 1)
    skipBlank
    return document) text

end TagQuery.Json
