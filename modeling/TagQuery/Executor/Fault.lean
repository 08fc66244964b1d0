import TagQuery.Row.Basic

/-!
What can go wrong when a statement is run.
-/

namespace TagQuery

/-- The executor failed, or what it answered is not what the statement promises. -/
inductive StorageFault where
  | rowCount (found min : Nat) (max : Option Nat)
  | rowShape (flaw : RowFlaw)
  | unboundParameter (name : String)
  | driver (reason : String)
deriving DecidableEq, Repr

/-- A bound on a number of rows; without one the number is free upwards. -/
def boundText : Option Nat → String
  | some bound => Number.writeNat bound
  | none => "unbounded"

def StorageFault.message : StorageFault → String
  | .rowCount found min max =>
    "invalid row count: " ++ Number.writeNat found ++ ", expected between " ++
      Number.writeNat min ++ " and " ++ boundText max
  | .rowShape flaw => "row does not match shape: " ++ flaw.message
  | .unboundParameter name => "statement references unbound parameter '$" ++ name ++ "'"
  | .driver reason => "driver error: " ++ reason

end TagQuery
