import TagQuery.Data.Reader

/-!
The texts and keys of TOML.
-/

namespace TagQuery.Toml

open Reader

/-- Characters that a text may hold as they are: the tab and all that are no controls. -/
def isPlain (character : Char) : Bool :=
  character == '\t' || (0x20 ≤ character.toNat && character != '\x7f')

def isBlank (character : Char) : Bool :=
  character == ' ' || character == '\t'

def skipBlank : Reader Unit := discard (takeWhile isBlank)

/-- The end of a line, which may be marked by a carriage return as well. -/
def skipLineEnd? : Reader Bool := do
  if ← skip? ['\n'] then return true
  skip? ['\r', '\n']

/-- A comment up to the end of its line. -/
def skipComment : Reader Unit := do
  if ← skip? ['#'] then discard (takeWhile isPlain)

/-- The character of an escape by one letter. -/
def letterEscape? : Char → Option Char
  | 'b' => some '\x08'
  | 't' => some '\t'
  | 'n' => some '\n'
  | 'f' => some '\x0c'
  | 'r' => some '\r'
  | 'e' => some '\x1b'
  | '"' => some '"'
  | '\\' => some '\\'
  | _ => none

/-- The number of digits of an escape by code point. -/
def codePointDigits? : Char → Option Nat
  | 'x' => some 2
  | 'u' => some 4
  | 'U' => some 8
  | _ => none

/-- An escape after its backslash. -/
def escape : Reader Char := do
  match ← next? with
  | none => failure
  | some letter =>
    expect [letter]
    match codePointDigits? letter with
    | some count => (charOf? (← hex count)).elim failure pure
    | none => (letterEscape? letter).elim failure pure

/-- Text on one line, up to its closing quote. -/
def lineRest (quote : Char) : Nat → Reader (List Char)
  | 0 => failure
  | budget + 1 => do
    if ← skip? [quote] then return []
    if quote == '"' then
      if ← skip? ['\\'] then
        let escaped ← escape
        return escaped :: (← lineRest quote budget)
    match ← next? with
    | none => failure
    | some character =>
      require (isPlain character)
      expect [character]
      return character :: (← lineRest quote budget)

/-- Blank characters and line ends. -/
def skipLines : Nat → Reader Unit
  | 0 => pure ()
  | budget + 1 => do
    skipBlank
    if ← skipLineEnd? then skipLines budget

/-- A backslash before the end of a line takes away all blanks and line ends up to the
next other character. -/
def lineJoin? : Reader Bool :=
  consume fun rest =>
    let attempt : Reader Unit := do
      expect ['\\']
      skipBlank
      require (← skipLineEnd?)
      skipLines rest.length
    match StateT.run attempt rest with
    | some ((), after) => some (true, after)
    | none => some (false, rest)

/-- Text on several lines, up to its three closing quotes. One or two quotes more belong
to the text. -/
def linesRest (quote : Char) : Nat → Reader (List Char)
  | 0 => failure
  | budget + 1 => do
    if ← skip? (List.replicate 3 quote) then
      let more ← takeWhile (· == quote)
      require (more.length ≤ 2)
      return more
    if ← skip? ['\r', '\n'] then return '\r' :: '\n' :: (← linesRest quote budget)
    if ← skip? ['\n'] then return '\n' :: (← linesRest quote budget)
    if quote == '"' then
      if ← lineJoin? then return ← linesRest quote budget
      if ← skip? ['\\'] then
        let escaped ← escape
        return escaped :: (← linesRest quote budget)
    match ← next? with
    | none => failure
    | some character =>
      require (isPlain character)
      expect [character]
      return character :: (← linesRest quote budget)

/-- Text on one line in the given quotes, if it comes next. -/
def lineText? (quote : Char) : Reader (Option String) := do
  if ← skip? [quote] then
    return some (String.ofList (← lineRest quote (← get).length))
  return none

/-- Text on several lines, if it comes next. A line end right at the beginning is left out. -/
def linesText? (quote : Char) : Reader (Option String) := do
  if ← skip? (List.replicate 3 quote) then
    discard skipLineEnd?
    return some (String.ofList (← linesRest quote (← get).length))
  return none

/-- A text of any kind, if one comes next. -/
def text? : Reader (Option String) := do
  for quote in ['"', '\''] do
    if let some content ← linesText? quote then return some content
    if let some content ← lineText? quote then return some content
  return none

def isBareKeyChar (character : Char) : Bool :=
  character.isAlphanum || character == '_' || character == '-'

/-- One part of a key: bare, or a text on one line. -/
def keyPart : Reader String := do
  for quote in ['"', '\''] do
    if let some content ← lineText? quote then return content
  let bare ← takeWhile isBareKeyChar
  require (!bare.isEmpty)
  return String.ofList bare

/-- The parts of a key, with dots between them. -/
def keyParts : Nat → Reader (List String)
  | 0 => failure
  | budget + 1 => do
    skipBlank
    let part ← keyPart
    skipBlank
    if ← skip? ['.'] then return part :: (← keyParts budget)
    return [part]

/-- How many parts a key may have. -/
def keyLimit : Nat := 80

def key : Reader (List String) := do
  let parts ← keyParts (← get).length
  require (parts.length ≤ keyLimit)
  return parts

end TagQuery.Toml
