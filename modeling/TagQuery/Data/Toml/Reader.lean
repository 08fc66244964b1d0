import TagQuery.Data.Toml.Scalar
import TagQuery.Data.Toml.Table
import TagQuery.Data.Toml.Text

/-!
Documents in TOML 1.1.
-/

namespace TagQuery.Toml

open Reader

/-- Blanks, line ends and comments between the items of a list. -/
def skipBetween : Nat → Reader Unit
  | 0 => pure ()
  | budget + 1 => do
    skipBlank
    skipComment
    if ← skipLineEnd? then skipBetween budget

def skipSpace : Reader Unit := do
  skipBetween (← get).length

/-- Characters that end an unquoted scalar, besides blanks. -/
def isDelimiter (character : Char) : Bool :=
  ['=', ',', '[', ']', '\x7b', '\x7d', '#', '\r', '\n'].contains character

/-- The characters that an unquoted scalar is made of. -/
def isScalarChar (character : Char) : Bool :=
  !isBlank character && !isDelimiter character

/-- Blanks inside an unquoted scalar. They are followed by more of it, and not by a text. -/
def blanksInside : Reader (List Char) :=
  consume fun rest =>
    let after := rest.dropWhile isBlank
    if after.head?.any fun next => isScalarChar next && next != '"' && next != '\'' then
      some (rest.takeWhile isBlank, after)
    else some ([], rest)

/-- An unquoted scalar as it is written. -/
def scalarText : Nat → Reader (List Char)
  | 0 => failure
  | budget + 1 => do
    let word ← takeWhile isScalarChar
    let blanks ← blanksInside
    if blanks.isEmpty then return word
    return word ++ blanks ++ (← scalarText budget)

def scalar : Reader Data := do
  require (isScalar (← scalarText ((← get).length + 1)))
  return .other

variable {α : Type}

/-- Items with commas between them, up to the closing character; a comma may also stand
after the last. -/
def items (item : Reader α) (close : Char) : Nat → Reader (List α)
  | 0 => failure
  | budget + 1 => do
    skipSpace
    if ← skip? [close] then return []
    let first ← item
    skipSpace
    if ← skip? [','] then return first :: (← items item close budget)
    expect [close]
    return [first]

/-- A key, the equals sign and a value, with what may stand around the sign. -/
def assignment (between : Reader Unit) (value : Reader Data) : Reader (List String × Data) := do
  let name ← key
  between
  expect ['=']
  between
  return (name, ← value)

/-- The record of a table that is written as a value. -/
def inlineTable (assignments : List (List String × Data)) : Option Data :=
  (assignments.foldlM (fun table (name, data) => assign name data table)
    (.table .header [])).map Node.data

/-- A value that holds no others. -/
def simpleValue : Reader Data := do
  match ← text? with
  | some content => return .text (some content)
  | none => scalar

/-- A value with at most so many lists and tables around its innermost part. -/
def value : Nat → Reader Data
  | 0 => simpleValue
  | depth + 1 => do
    if ← skip? ['['] then return .list (← items (value depth) ']' ((← get).length + 1))
    if ← skip? ['\x7b'] then
      let assignments ← items (assignment skipSpace (value depth)) '\x7d' ((← get).length + 1)
      (inlineTable assignments).elim failure pure
    else simpleValue

/-- How deep values may be nested. -/
def depthLimit : Nat := 80

/-- The document so far and the header under which the next lines stand. -/
structure Progress where
  root : Node := .table .header []
  header : List String := []

/-- Begin the table of a header in single or double brackets. -/
def header (progress : Progress) : Reader Progress := do
  let several ← skip? ['[']
  let name ← key
  expect (if several then [']', ']'] else [']'])
  let some (path, last) := splitKey name | failure
  let begin := if several then beginNextTable last else beginTable last
  (alterAt false begin path progress.root).elim failure fun root =>
    pure { root, header := name }

/-- What stands on one line before a comment. -/
def line (progress : Progress) : Reader Progress := do
  match ← next? with
  | none | some '#' | some '\n' | some '\r' => return progress
  | some '[' =>
    expect ['[']
    header progress
  | some _ =>
    let (name, data) ← assignment skipBlank (value depthLimit)
    (alterAt false (assign name data) progress.header progress.root).elim failure fun root =>
      pure { progress with root }

/-- The lines up to the end of the document. -/
def lines (progress : Progress) : Nat → Reader Progress
  | 0 => failure
  | budget + 1 => do
    skipBlank
    let after ← line progress
    skipBlank
    skipComment
    if ← atEnd then return after
    require (← skipLineEnd?)
    lines after budget

/-- A document; a byte order mark before it is passed over. -/
def read? (text : String) : Option Data :=
  all? (do
    discard (skip? ['\ufeff'])
    let progress ← lines {} (text.length + 1)
    return progress.root.data) text

end TagQuery.Toml
