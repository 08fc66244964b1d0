import TagQuery.Action
import TagQuery.Executor.Fault
import TagQuery.Statement.Binding

/-!
What runs statements, and a record of the calls made to it.
-/

namespace TagQuery

class Executor (ξ : Type) where
  /-- Run a statement for its rows. -/
  query : PositionalStatement → Action StorageFault ξ (List Row)
  /-- Run a statement for its effect and count the rows it touched. -/
  execute : PositionalStatement → Action StorageFault ξ UInt64

inductive ExecutorCall where
  | query (statement : PositionalStatement)
  | execute (statement : PositionalStatement)
deriving DecidableEq, Repr

/-- An executor together with the calls made to it so far, failed ones included. -/
structure Recorded (ξ : Type) where
  executor : ξ
  calls : List ExecutorCall := []
deriving Repr

namespace Recorded

variable {ξ α : Type}

/-- Note a call and make it. -/
def making (call : ExecutorCall) (action : Action StorageFault ξ α) :
    Action StorageFault (Recorded ξ) α := do
  modify fun recorded => { recorded with calls := recorded.calls ++ [call] }
  action.onPart Recorded.executor fun recorded executor => { recorded with executor }

instance [Executor ξ] : Executor (Recorded ξ) where
  query statement := making (.query statement) (Executor.query statement)
  execute statement := making (.execute statement) (Executor.execute statement)

end Recorded

end TagQuery
