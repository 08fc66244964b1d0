import TagQuery.IdCache.Basic

/-!
A cache inside the process.
-/

namespace TagQuery

structure ResidentCache where
  entries : OrderedMap Signature TagId := .empty
  ready : Bool := false
deriving DecidableEq, Repr

namespace ResidentCache

def requireReady : Action CacheFault ResidentCache Unit := do
  if !(← get).ready then throw .notReady

def lookup (signature : Signature) : Action CacheFault ResidentCache TagId := do
  requireReady
  match (← get).entries.get? signature with
  | some id => return id
  | none => throw (.notFound signature)

/-- The entries of those signatures that have one. -/
def known (cache : ResidentCache) (signatures : List Signature) : List (Signature × TagId) :=
  signatures.filterMap fun signature =>
    (cache.entries.get? signature).map fun id => (signature, id)

instance : IdCache ResidentCache where
  load entries := modify fun cache => { entries := cache.entries.insertMany entries, ready := true }
  lookup := lookup
  lookupMany signatures := do
    requireReady
    return .ofList ((← get).known signatures)
  record signature id := modify fun cache =>
    { cache with entries := cache.entries.insert signature id }

end ResidentCache

end TagQuery
