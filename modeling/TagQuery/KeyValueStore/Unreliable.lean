import TagQuery.KeyValueStore.Basic

/-!
A local store that refuses some keys and may cut batch answers short, to see what depends
on a store that does neither.
-/

namespace TagQuery

structure UnreliableStore where
  store : LocalStore := {}
  refusesGet : String → Bool := fun _ => false
  refusesSet : String → Bool := fun _ => false
  /-- What every refusal says. -/
  reason : String := "connection refused"
  /-- How many answers of a batch arrive, when not all do. -/
  arriving : Option Nat := none

namespace UnreliableStore

/-- A step on the store inside, unless it is refused. -/
def guarding {α : Type} (refuses : UnreliableStore → Bool)
    (action : Action StoreRefusal LocalStore α) : Action StoreRefusal UnreliableStore α := do
  let unreliable ← get
  if refuses unreliable then throw ⟨unreliable.reason⟩
  action.onPart UnreliableStore.store fun unreliable store => { unreliable with store }

def getOne (key : String) : Action StoreRefusal UnreliableStore (Option String) :=
  guarding (·.refusesGet key) (KeyValueStore.get key)

instance : KeyValueStore UnreliableStore where
  get := getOne
  set key value := guarding (·.refusesSet key) (KeyValueStore.set key value)
  getMany keys := do
    let answers ← keys.mapM getOne
    return (← get).arriving.elim answers answers.take

end UnreliableStore

end TagQuery
