import TagQuery.Failure
import TagQuery.Listing.Order
import TagQuery.Listing.Predicate

/-!
From a filter to a predicate on association rows, in two passes over its tree.

The first pass checks the tags a filter tests for and collects their signatures, which are
then resolved in one batch. The second replaces the leaves: a tag that the cache knows
becomes a test for its identifier, a bare tag that it does not know stands for the family of
all tags with its key, and a valued tag that it does not know is refused. On its way it
numbers the families, sets their parameters and follows the directives.
-/

namespace TagQuery

/-- How the signatures of a filter were resolved. -/
structure ResolutionCounts where
  signatures : Nat
  resolved : Nat
  families : Nat
deriving DecidableEq, Repr

structure CompiledFilter where
  predicate : Predicate
  order : ListingOrder
  params : Params
  counts : ResolutionCounts
deriving DecidableEq, Repr

/-- The items with one more at the end, unless it is already among them. -/
def pushUnique {α : Type} [DecidableEq α] (items : List α) (item : α) : List α :=
  if item ∈ items then items else items ++ [item]

/-- What the second pass has made so far, apart from the predicate. -/
structure PredicateFold where
  /-- The keys of the families by number. -/
  families : List String := []
  params : Params := .empty
  order : ListingOrder := {}

/-- Number the family of a key, unless it was met before, and set its parameter. -/
def PredicateFold.meet (fold : PredicateFold) (key : String) : PredicateFold :=
  let families := pushUnique fold.families key
  { fold with
    families
    params := fold.params.insert (familyParameter (families.idxOf key)) (.text key) }

namespace Leaf

/-- The first pass at a leaf. -/
def collect (leaf : Leaf) : Action QueryFault (List Signature) Unit := do
  match leaf.subject? with
  | none => return
  | some subject =>
    .ofExcept subject.check
    modify fun signatures => pushUnique signatures subject.signature

/-- The second pass at a leaf. -/
def fold (resolved : Resolution) : Leaf → Action QueryFault PredicateFold Atom
  | .always => return .always
  | .tag named => do
    match (tag named).directive? with
    | some directive =>
      modify fun fold => { fold with order := fold.order.follow directive }
      return .always
    | none =>
      match resolved.get? named.signature with
      | some id => return .carries id
      | none =>
        if named.value.isNone then
          modify fun fold => fold.meet named.key
          return .carriesFamily ((← get).families.idxOf named.key)
        else throw (.unknownTag named.signature)

end Leaf

namespace Filter

/-- Check the tags of a filter from left to right, up to the first bad one, and collect
their signatures where they first occur. -/
def collect : Filter → Action QueryFault (List Signature) Unit
  | .leaf leaf => leaf.collect
  | .and left right => do collect left; collect right
  | .or left right => do collect left; collect right
  | .not inner => collect inner

/-- Replace the leaves of a filter from left to right, up to the first that is refused. -/
def fold (resolved : Resolution) : Filter → Action QueryFault PredicateFold Predicate
  | .leaf leaf => return .leaf (← leaf.fold resolved)
  | .and left right => return .and (← fold resolved left) (← fold resolved right)
  | .or left right => return .or (← fold resolved left) (← fold resolved right)
  | .not inner => return .not (← fold resolved inner)

/-- The predicate of a filter whose signatures are resolved. -/
def compileResolved (filter : Filter) (resolved : Resolution) :
    Except QueryFault CompiledFilter := do
  let (folded, fold) := (filter.fold resolved).runFrom {}
  return {
    predicate := ← folded
    order := fold.order
    params := fold.params
    counts := ⟨filter.signatures.length, resolved.size, fold.families.length⟩ }

/-- Resolve signatures; a filter without any leaves the cache alone. -/
def resolve {σ : Type} [IdCache σ] (signatures : List Signature) :
    Action CacheFault σ Resolution :=
  if signatures = [] then return .empty else IdCache.lookupMany signatures

/-- Compile a filter. Its tags are checked before the cache is asked, and of several bad
ones the leftmost is reported. -/
def compile {σ : Type} [IdCache σ] (filter : Filter) : Action Failure σ CompiledFilter := do
  let (checked, signatures) := filter.collect.runFrom []
  .ofExcept (checked.mapError .ofQuery)
  let resolved ← (resolve signatures).mapFault .ofCache
  .ofExcept ((filter.compileResolved resolved).mapError .ofQuery)

end Filter

end TagQuery
