import TagQuery.Filter.Basic
import TagQuery.Schema.Basic
import TagQuery.Statement.Basic

/-!
The order of a listing, as the directives of a filter ask for it.
-/

namespace TagQuery

inductive ListingKey where
  | creation
  | random
deriving DecidableEq, Repr

def ListingKey.label : ListingKey → String
  | .creation => "creation_order"
  | .random => "random"

/-- The newest entities come first unless a directive says otherwise. -/
structure ListingOrder where
  key : ListingKey := .creation
  direction : Direction := .descending
deriving DecidableEq, Repr

namespace ListingOrder

/-- Follow one directive. Random order keeps the direction chosen so far, and an unknown
directive changes nothing. -/
def follow (order : ListingOrder) (directive : String) : ListingOrder :=
  if directive = "random" then { order with key := .random }
  else if directive = "oldest" then ⟨.creation, .ascending⟩
  else if directive = "newest" then ⟨.creation, .descending⟩
  else order

def ofDirectives (directives : List String) : ListingOrder :=
  directives.foldl follow {}

/-- Entities created at the same time are ordered by their identifiers, so that pages do
not overlap. -/
def orderItems (order : ListingOrder) (entity : EntityTable) : List OrderItem :=
  match order.key with
  | .random => [{ key := .random }]
  | .creation =>
    [{ key := .column ("e." ++ entity.createdColumn), direction := some order.direction },
     { key := .column ("e." ++ entity.idColumn), direction := some order.direction }]

end ListingOrder

end TagQuery
