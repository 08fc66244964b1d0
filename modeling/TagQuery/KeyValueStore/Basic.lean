import TagQuery.Action
import TagQuery.OrderedMap

/-!
Stores of text by key that may be far away and may refuse an operation.
-/

namespace TagQuery

/-- A store could not be reached or refused an operation. -/
structure StoreRefusal where
  message : String
deriving DecidableEq, Repr

/-- What a store can do. A store without batch operations gets them one by one, stopping
at the first refusal. -/
class KeyValueStore (σ : Type) where
  get : String → Action StoreRefusal σ (Option String)
  set : String → String → Action StoreRefusal σ Unit
  getMany : List String → Action StoreRefusal σ (List (Option String)) := fun keys =>
    keys.mapM get
  setMany : List (String × String) → Action StoreRefusal σ Unit := fun entries =>
    entries.forM fun (key, value) => set key value

/-- A store in this process, which refuses nothing. -/
structure LocalStore where
  entries : OrderedMap String String := .empty
deriving DecidableEq, Repr

instance : KeyValueStore LocalStore where
  get key := return (← getThe LocalStore).entries.get? key
  set key value := modify fun store => ⟨store.entries.insert key value⟩
  getMany keys := return keys.map (← getThe LocalStore).entries.get?
  setMany entries := modify fun store => ⟨store.entries.insertMany entries⟩

end TagQuery
