import TagQuery.Number.Decimal

/-!
The spellings in which SQL dialects differ.
-/

namespace TagQuery

inductive Dialect where
  | postgres
  | sqlite
deriving DecidableEq, Repr

namespace Dialect

/-- The name of a dialect in configuration documents. -/
def name : Dialect → String
  | .postgres => "postgres"
  | .sqlite => "sqlite"

def ofName? (name : String) : Option Dialect :=
  [postgres, sqlite].find? fun dialect => dialect.name == name

/-- The sort key that puts rows in random order. -/
def randomFunction : Dialect → String
  | .postgres | .sqlite => "RANDOM()"

/-- The operator that matches a pattern whatever the case of ASCII letters. -/
def matchOperator : Dialect → String
  | .postgres => "ILIKE"
  | .sqlite => "LIKE"

/-- The mark before the number of a positional parameter. -/
def placeholderMark : Dialect → String
  | .postgres => "$"
  | .sqlite => "?"

/-- The text of a positional parameter; positions count from one. -/
def placeholder (dialect : Dialect) (position : Nat) : String :=
  dialect.placeholderMark ++ Number.writeNat position

end Dialect

end TagQuery
