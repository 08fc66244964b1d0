/-!
Statements as data. Their fragments are SQL built from the schema and from tag
identifiers; text that a caller supplied stands in them only as a named parameter.
-/

namespace TagQuery

inductive JoinKind where
  | inner
  | left
  | right
deriving DecidableEq, Repr

structure Join where
  kind : JoinKind
  table : String
  condition : String
deriving DecidableEq, Repr

inductive Direction where
  | ascending
  | descending
deriving DecidableEq, Repr

inductive NullsPlace where
  | first
  | last
deriving DecidableEq, Repr

inductive OrderKey where
  | random
  | column (expression : String)
deriving DecidableEq, Repr

structure OrderItem where
  key : OrderKey
  direction : Option Direction := none
  nulls : Option NullsPlace := none
deriving DecidableEq, Repr

/-- A row count given in the statement itself or by a parameter. -/
inductive RowBound where
  | literal (count : UInt64)
  | parameter (name : String)
deriving DecidableEq, Repr

structure Select where
  columns : List String := []
  source : String := ""
  joins : List Join := []
  condition : Option String := none
  grouping : Option String := none
  groupCondition : Option String := none
  order : List OrderItem := []
  limit : Option RowBound := none
  offset : Option RowBound := none
deriving DecidableEq, Repr

inductive ConflictAction where
  | doNothing
  | update (target : List String) (assignments : List (String × String))
deriving DecidableEq, Repr

/-- Every row holds one expression for each column, in their order. -/
structure Insert where
  table : String := ""
  columns : List String := []
  rows : List (List String) := []
  onConflict : Option ConflictAction := none
  returning : List String := []
deriving DecidableEq, Repr

structure Delete where
  table : String := ""
  condition : Option String := none
deriving DecidableEq, Repr

inductive Statement where
  | select (statement : Select)
  | insert (statement : Insert)
  | delete (statement : Delete)
deriving DecidableEq, Repr

end TagQuery
