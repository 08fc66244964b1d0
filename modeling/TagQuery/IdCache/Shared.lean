import TagQuery.IdCache.Basic
import TagQuery.KeyValueStore.Basic
import TagQuery.Schema.Basic

/-!
A cache in a key-value store that others share. An entry's key is the signature after a
fixed beginning, and its value is the identifier in decimal. Every look-up asks the
store; whether the cache is ready is known in this process only.
-/

namespace TagQuery

/-- What a store refuses makes the cache unavailable. -/
def CacheFault.ofRefusal (refusal : StoreRefusal) : CacheFault :=
  .unavailable refusal.message

structure SharedCache (σ : Type) where
  store : σ
  keyStart : String
  ready : Bool := false
deriving Repr

namespace SharedCache

variable {σ : Type}

def ofSettings (store : σ) (settings : CacheSettings) : SharedCache σ :=
  { store, keyStart := settings.keyStart }

def entryKey (cache : SharedCache σ) (signature : Signature) : String :=
  cache.keyStart ++ signature.text

/-- A step on the store. -/
def onStore {α : Type} (action : Action StoreRefusal σ α) :
    Action CacheFault (SharedCache σ) α :=
  (action.mapFault .ofRefusal).onPart SharedCache.store fun cache store => { cache with store }

def requireReady : Action CacheFault (SharedCache σ) Unit := do
  if !(← get).ready then throw .notReady

/-- The identifier that an entry holds. -/
def readId (key value : String) : Except CacheFault TagId :=
  match Number.readInt64? value with
  | some id => .ok ⟨id⟩
  | none => .error (.invalidEntry key value)

/-- The identifiers in the answers to a batch, one answer for each signature. -/
def resolveAnswers (cache : SharedCache σ) :
    List (Signature × Option String) → Except CacheFault (List (Signature × TagId))
  | [] => .ok []
  | (_, none) :: rest => cache.resolveAnswers rest
  | (signature, some value) :: rest => do
    let id ← readId (cache.entryKey signature) value
    return (signature, id) :: (← cache.resolveAnswers rest)

variable [KeyValueStore σ]

def load (entries : List (Signature × TagId)) : Action CacheFault (SharedCache σ) Unit := do
  let cache ← get
  if entries ≠ [] then
    onStore (KeyValueStore.setMany (entries.map fun (signature, id) =>
      (cache.entryKey signature, id.text)))
  modify fun cache => { cache with ready := true }

def lookup (signature : Signature) : Action CacheFault (SharedCache σ) TagId := do
  requireReady
  let key := (← get).entryKey signature
  match ← onStore (KeyValueStore.get key) with
  | some value => .ofExcept (readId key value)
  | none => throw (.notFound signature)

/-- An answer of the wrong length tells nothing about any key. -/
def lookupMany (signatures : List Signature) :
    Action CacheFault (SharedCache σ) Resolution := do
  requireReady
  if signatures = [] then return .empty
  let cache ← get
  let answers ← onStore (KeyValueStore.getMany (signatures.map cache.entryKey))
  if answers.length ≠ signatures.length then
    throw (.unavailable ("store answered " ++ Number.writeNat answers.length ++ " of " ++
      Number.writeNat signatures.length ++ " keys"))
  let resolved ← Action.ofExcept (cache.resolveAnswers (signatures.zip answers))
  return .ofList resolved

instance : IdCache (SharedCache σ) where
  load := load
  lookup := lookup
  lookupMany := lookupMany
  record signature id := do
    let cache ← get
    onStore (KeyValueStore.set (cache.entryKey signature) id.text)

end SharedCache

end TagQuery
