import TagQuery.IdCache.Resident

/-!
A cache in the process that fails on some signatures and looks batches up one by one.
-/

namespace TagQuery

structure UnreliableCache where
  cache : ResidentCache := {}
  fails : Signature → Bool := fun _ => false

namespace UnreliableCache

def onCache {α : Type} (action : Action CacheFault ResidentCache α) :
    Action CacheFault UnreliableCache α :=
  action.onPart UnreliableCache.cache fun unreliable cache => { unreliable with cache }

/-- A step that concerns one signature. -/
def concerning {α : Type} (signature : Signature) (action : Action CacheFault ResidentCache α) :
    Action CacheFault UnreliableCache α := do
  if (← get).fails signature then throw (.unavailable ("timeout on " ++ signature.text))
  onCache action

instance : IdCache UnreliableCache where
  load entries := onCache (IdCache.load entries)
  lookup signature := concerning signature (IdCache.lookup signature)
  record signature id := concerning signature (IdCache.record signature id)

end UnreliableCache

end TagQuery
