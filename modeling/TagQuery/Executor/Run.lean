import TagQuery.Executor.Basic
import TagQuery.Row.Page
import TagQuery.Statement.Text

/-!
Running statements: write, bind, execute, hold the number of rows to what the statement
promises, and only then read the rows.
-/

namespace TagQuery

/-- How many rows a statement promises. -/
inductive RowPromise where
  | one
  | oneOrNone
  | many
  | any
deriving DecidableEq, Repr

namespace RowPromise

def min : RowPromise → Nat
  | .one | .many => 1
  | .oneOrNone | .any => 0

def max : RowPromise → Option Nat
  | .one | .oneOrNone => some 1
  | .many | .any => none

/-- Whether a number of rows lies within the bounds. -/
def admits (promise : RowPromise) (found : Nat) : Bool :=
  promise.min ≤ found && promise.max.all (found ≤ ·)

def check (promise : RowPromise) (found : Nat) : Except StorageFault Unit :=
  if promise.admits found then .ok () else .error (.rowCount found promise.min promise.max)

end RowPromise

/-- The text of a statement with its parameters bound. -/
def Statement.bind (dialect : Dialect) (params : Params) (statement : Statement) :
    Except StorageFault PositionalStatement :=
  (bindText dialect params (statement.text dialect)).mapError fun unbound =>
    .unboundParameter unbound.name

def readRow {α : Type} [RowShape α] (row : Row) : Except StorageFault α :=
  (RowShape.ofRow row).mapError .rowShape

namespace Statement

variable {ξ : Type} [Executor ξ]

/-- Run a statement for as many rows as it promises. -/
def fetch (dialect : Dialect) (params : Params) (promise : RowPromise) (statement : Statement) :
    Action StorageFault ξ (List Row) := do
  let bound ← Action.ofExcept (statement.bind dialect params)
  let rows ← Executor.query bound
  .ofExcept (promise.check rows.length)
  return rows

/-- Run a statement for its effect. -/
def run (dialect : Dialect) (params : Params) (statement : Statement) :
    Action StorageFault ξ UInt64 := do
  let bound ← Action.ofExcept (statement.bind dialect params)
  Executor.execute bound

variable {α : Type} [RowShape α]

def fetchOne (dialect : Dialect) (params : Params) (statement : Statement) :
    Action StorageFault ξ α := do
  match ← statement.fetch dialect params .one with
  | row :: _ => .ofExcept (readRow row)
  | [] => throw (.rowCount 0 1 (some 1))

def fetchOneOrNone (dialect : Dialect) (params : Params) (statement : Statement) :
    Action StorageFault ξ (Option α) := do
  match ← statement.fetch dialect params .oneOrNone with
  | row :: _ => .ofExcept ((readRow row).map some)
  | [] => return none

/-- Every row that a statement answers; the first that cannot be read decides. -/
def fetchAll (dialect : Dialect) (params : Params) (promise : RowPromise)
    (statement : Statement) : Action StorageFault ξ (List α) := do
  let rows ← statement.fetch dialect params promise
  .ofExcept (rows.mapM readRow)

def fetchPage (dialect : Dialect) (params : Params) (statement : Statement) :
    Action StorageFault ξ (Page α) := do
  let rows ← statement.fetch dialect params .any
  .ofExcept ((Page.ofRows rows).mapError .rowShape)

end Statement

end TagQuery
