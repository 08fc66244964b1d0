/-!
Boolean formulas over leaves of any kind.
-/

namespace TagQuery

inductive Formula (α : Type) where
  | leaf (content : α)
  | and (left right : Formula α)
  | or (left right : Formula α)
  | not (inner : Formula α)
deriving DecidableEq, Repr

namespace Formula

variable {α : Type}

/-- The leaves from left to right. -/
def leaves : Formula α → List α
  | .leaf content => [content]
  | .and left right => left.leaves ++ right.leaves
  | .or left right => left.leaves ++ right.leaves
  | .not inner => inner.leaves

/-- All formulas of a list at once, joined from the left. -/
def conjunction (first : Formula α) (others : List (Formula α)) : Formula α :=
  others.foldl .and first

end Formula

end TagQuery
