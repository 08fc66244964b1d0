import TagQuery.Schema.Dialect
import TagQuery.Statement.Value
import TagQuery.Text.Identifier

/-!
From named to positional parameters.

A slot is a dollar sign outside single quotes with an identifier after it. Each name
gets the position of its first slot among the distinct names, and the values are those
of the names in that order. All other text is kept, quoted literals included.
-/

namespace TagQuery

inductive Lexeme where
  | plain (character : Char)
  | slot (name : List Char)
deriving DecidableEq, Repr

namespace Lexeme

/-- Split text into slots and single characters. Every quote enters or leaves a literal:
a doubled quote inside one leaves it and enters it again. -/
def scan (quoted : Bool) : List Char → List Lexeme
  | [] => []
  | '\'' :: rest => .plain '\'' :: scan (!quoted) rest
  | '$' :: first :: rest =>
    if !quoted && Text.isIdentifierStart first then
      .slot (first :: rest.takeWhile Text.isIdentifierRest) ::
        scan quoted (rest.dropWhile Text.isIdentifierRest)
    else .plain '$' :: scan quoted (first :: rest)
  | character :: rest => .plain character :: scan quoted rest
termination_by text => text.length
decreasing_by
  · simp
  · have := (List.dropWhile_suffix Text.isIdentifierRest (l := rest)).length_le
    simp only [List.length_cons]
    omega
  · simp
  · simp

def name? : Lexeme → Option String
  | .plain _ => none
  | .slot name => some (String.ofList name)

/-- The distinct names of the slots, each where it first occurs. -/
def names (lexemes : List Lexeme) : List String :=
  (lexemes.filterMap name?).eraseDups

/-- A lexeme after binding, when `order` lists the names by position. -/
def bound (dialect : Dialect) (order : List String) : Lexeme → List Char
  | .plain character => [character]
  | .slot name => (dialect.placeholder (order.idxOf (String.ofList name) + 1)).toList

end Lexeme

/-- SQL text with positional parameters, and their values by position. -/
structure PositionalStatement where
  sql : String
  values : List Value
deriving DecidableEq, Repr

/-- A slot names a parameter that was not given. -/
structure UnboundParameter where
  name : String
deriving DecidableEq, Repr

def Params.require (params : Params) (name : String) : Except UnboundParameter Value :=
  match params.get? name with
  | some value => .ok value
  | none => .error ⟨name⟩

/-- Bind text. Parameters without a slot are left aside, and of several slots without a
parameter the leftmost is reported. -/
def bindText (dialect : Dialect) (params : Params) (sql : String) :
    Except UnboundParameter PositionalStatement := do
  let lexemes := Lexeme.scan false sql.toList
  let order := Lexeme.names lexemes
  let values ← order.mapM params.require
  return { sql := String.ofList (lexemes.flatMap (Lexeme.bound dialect order)), values }

end TagQuery
