import TagQuery.Proofs.Catalog.Sound

/-! The states a catalog on a shared cache can come to, when callers do what they like and
the cache refuses what it likes. -/

namespace TagQuery

variable {σ ξ : Type} [Executor ξ] {schema : Schema}

namespace Catalog

/-- What one call of a caller leaves of a catalog. -/
inductive Calls [IdCache σ] (catalog : Catalog σ ξ) : Catalog σ ξ → Prop
  | loadCache : Calls catalog (loadCache.runFrom catalog).2
  | listEntities {α : Type} [RowShape α] (filter : Filter) (window : PageWindow) :
    Calls catalog ((listEntities filter window : Step σ ξ (Page α)).runFrom catalog).2
  | listTags (search : Tag) (window : PageWindow) :
    Calls catalog ((listTags search window).runFrom catalog).2
  | entityTags (entity : Int64) : Calls catalog ((entityTags entity).runFrom catalog).2
  | createTags (tags : List TagDraft) : Calls catalog ((createTags tags).runFrom catalog).2
  | addTag (entity : Int64) (tag : Tag) : Calls catalog ((addTag entity tag).runFrom catalog).2
  | removeTag (entity : Int64) (tag : Tag) : Calls catalog ((removeTag entity tag).runFrom catalog).2
  | attachTag (entity : Int64) (raw : String) (type : TagKind) :
    Calls catalog ((attachTag entity raw type).runFrom catalog).2

theorem sound_of_calls [IdCache σ] [BoundedCache σ] {store : TagStore schema ξ}
    {loaded : Bool} {catalog after : Catalog σ ξ} (sound : store.Sound loaded catalog)
    (called : Calls catalog after) : store.Sound loaded after := by
  cases called with
  | loadCache => exact keeps_loadCache catalog sound
  | listEntities filter window => exact keeps_listEntities filter window catalog sound
  | listTags search window => exact keeps_listTags search window catalog sound
  | entityTags entity => exact keeps_entityTags entity catalog sound
  | createTags tags => exact keeps_createTags tags catalog sound
  | addTag entity tag => exact keeps_addTag entity tag catalog sound
  | removeTag entity tag => exact keeps_removeTag entity tag catalog sound
  | attachTag entity raw type => exact keeps_attachTag entity raw type catalog sound

end Catalog

namespace TagStore

variable [KeyValueStore σ] [HonestStore σ]

/-- A catalog starts on a cache that names nothing but stored tags, as an empty one does.
Between calls the cache may change what it will refuse. -/
inductive Reachable (store : TagStore schema ξ) : Catalog (SharedCache σ) ξ → Prop
  | start {catalog : Catalog (SharedCache σ) ξ} : catalog.schema = schema →
    (store.contents catalog.executor).signatures.Nodup →
    catalog.cache.OnlyHolds (store.contents catalog.executor).Names false →
      Reachable store catalog
  | call {before after : Catalog (SharedCache σ) ξ} : Reachable store before →
    before.Calls after → Reachable store after
  | moods {catalog : Catalog (SharedCache σ) ξ} {other : σ} : Reachable store catalog →
    TextStore.text? other = TextStore.text? catalog.cache.store →
    Reachable store { catalog with cache := { catalog.cache with store := other } }

/-- The store has the tag, and the cache does not know it. -/
def Forgets (store : TagStore schema ξ) (catalog : Catalog (SharedCache σ) ξ)
    (signature : Signature) : Prop :=
  signature ∈ (store.contents catalog.executor).signatures ∧
    catalog.cache.text? signature = none

instance (store : TagStore schema ξ) (catalog : Catalog (SharedCache σ) ξ)
    (signature : Signature) : Decidable (store.Forgets catalog signature) :=
  inferInstanceAs (Decidable (_ ∧ _))

/-- A cache that is ready stays so. -/
theorem Sound.loaded {store : TagStore schema ξ} {catalog : Catalog (SharedCache σ) ξ}
    (sound : store.Sound false catalog) (ready : catalog.cache.ready = true) :
    store.Sound true catalog where
  schema_eq := sound.schema_eq
  distinct := sound.distinct
  cached := ⟨fun _ => ready, sound.cached.fit⟩

/-- What a cache's store will refuse has no part in what it holds. -/
theorem Sound.with_texts {store : TagStore schema ξ} {catalog : Catalog (SharedCache σ) ξ} {other : σ}
    {loaded : Bool} (sound : store.Sound loaded catalog)
    (same : TextStore.text? other = TextStore.text? catalog.cache.store) :
    store.Sound loaded { catalog with cache := { catalog.cache with store := other } } := by
  refine sound.with_cache ⟨sound.cached.ready, fun signature text found => ?_⟩
  refine sound.cached.fit signature text ?_
  rw [SharedCache.text?, ← same]
  exact found

theorem Reachable.sound {store : TagStore schema ξ} {catalog : Catalog (SharedCache σ) ξ}
    (reachable : store.Reachable catalog) : store.Sound false catalog := by
  induction reachable with
  | start same distinct held => exact ⟨same, distinct, held⟩
  | call _ called sound => exact Catalog.sound_of_calls sound called
  | moods _ same sound => exact sound.with_texts same

end TagStore

end TagQuery
