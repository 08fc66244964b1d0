import TagQuery.Number.Hexadecimal

/-!
Reading text from the left: a step consumes characters and yields a result, or refuses
the text.
-/

namespace TagQuery

abbrev Reader := StateT (List Char) Option

namespace Reader

variable {α : Type}

def next? : Reader (Option Char) := return (← get).head?

def atEnd : Reader Bool := return (← get).isEmpty

/-- The longest run of characters that satisfy a test; it may be empty. -/
def takeWhile (test : Char → Bool) : Reader (List Char) :=
  modifyGet fun rest => (rest.takeWhile test, rest.dropWhile test)

/-- Consume the given characters if they come next. -/
def skip? (expected : List Char) : Reader Bool :=
  modifyGet fun rest =>
    if expected.isPrefixOf rest then (true, rest.drop expected.length) else (false, rest)

/-- Consume the given characters, which have to come next. -/
def expect (expected : List Char) : Reader Unit := do
  if !(← skip? expected) then failure

/-- Refuse the text unless a condition holds. -/
def require (condition : Bool) : Reader Unit :=
  if condition then pure () else failure

/-- A step that needs its own function on the remaining characters. -/
def consume (step : List Char → Option (α × List Char)) : Reader α := step

/-- Read a whole text. -/
def all? (reader : Reader α) (text : String) : Option α :=
  match StateT.run reader text.toList with
  | some (result, []) => some result
  | _ => none

end Reader

/-- A fixed number of hexadecimal digits. -/
def Reader.hex (count : Nat) : Reader Nat :=
  consume fun rest =>
    if rest.length < count then none
    else (Number.readHex? (rest.take count)).map fun value => (value, rest.drop count)

/-- The character of a code point, if there is one. -/
def charOf? (codePoint : Nat) : Option Char :=
  if codePoint.isValidChar then some (Char.ofNat codePoint) else none

end TagQuery
