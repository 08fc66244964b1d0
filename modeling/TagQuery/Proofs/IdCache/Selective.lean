import TagQuery.Proofs.IdCache.Observed
import TagQuery.Proofs.IdCache.Reliable

/-! Caches that refuse to be written for some signatures and take every other entry. -/

namespace TagQuery

/-- A cache that decides by the signature whether it takes an entry. What it takes is written
over what it held, and a refusal leaves it as it was. -/
class SelectiveCache (σ : Type) [IdCache σ] extends EntryCache σ where
  refusal? : σ → Signature → Option CacheFault
  upsert : σ → Signature → TagId → σ
  runFrom_record (cache : σ) (signature : Signature) (id : TagId) :
    (IdCache.record signature id).runFrom cache =
      (refusal? cache signature).elim (.ok (), upsert cache signature id) fun fault =>
        (.error fault, cache)
  refusal?_upsert (cache : σ) (signature : Signature) (id : TagId) :
    refusal? (upsert cache signature id) = refusal? cache
  entry?_upsert (cache : σ) (signature : Signature) (id : TagId) :
    entry? (upsert cache signature id) = writtenOver (EntryCache.entry? cache) [(signature, id)]

instance : SelectiveCache ResidentCache where
  refusal? _ _ := none
  upsert cache signature id := { cache with entries := cache.entries.insert signature id }
  runFrom_record _ _ _ := rfl
  refusal?_upsert _ _ _ := rfl
  entry?_upsert cache signature id :=
    funext fun name => OrderedMap.get?_insertMany cache.entries [(signature, id)] name

instance : SelectiveCache UnreliableCache where
  refusal? unreliable signature :=
    if unreliable.fails signature then some (.unavailable ("timeout on " ++ signature.text))
    else none
  upsert unreliable signature id := { unreliable with
    cache := { unreliable.cache with entries := unreliable.cache.entries.insert signature id } }
  runFrom_record unreliable signature id := by
    change (UnreliableCache.concerning signature (IdCache.record signature id)).runFrom
      unreliable = _
    unfold UnreliableCache.concerning
    cases fails : unreliable.fails signature with
    | true => simp [Action.runFrom_bind, fails]
    | false =>
      simp [Action.runFrom_bind, fails]
      rfl
  refusal?_upsert _ _ _ := rfl
  entry?_upsert unreliable signature id :=
    funext fun name => OrderedMap.get?_insertMany unreliable.cache.entries [(signature, id)] name

namespace SharedCache

instance : SelectiveCache (SharedCache LocalStore) where
  refusal? _ _ := none
  upsert cache signature id := { cache with
    store := ⟨cache.store.entries.insert (cache.entryKey signature) id.text⟩ }
  runFrom_record _ _ _ := rfl
  refusal?_upsert _ _ _ := rfl
  entry?_upsert cache signature id := entry?_of_written rfl fun key =>
    OrderedMap.get?_insertMany cache.store.entries [(cache.entryKey signature, id.text)] key

instance : SelectiveCache (SharedCache UnreliableStore) where
  refusal? cache signature :=
    if cache.store.refusesSet (cache.entryKey signature) then
      some (.ofRefusal ⟨cache.store.reason⟩)
    else none
  upsert cache signature id := { cache with store := { cache.store with
    store := ⟨cache.store.store.entries.insert (cache.entryKey signature) id.text⟩ } }
  runFrom_record cache signature id := by
    rw [runFrom_record_store, UnreliableStore.runFrom_set]
    by_cases refuses : cache.store.refusesSet (cache.entryKey signature)
    · rw [if_pos refuses, if_pos refuses]
      rfl
    · rw [if_neg refuses, if_neg refuses]
      rfl
  refusal?_upsert _ _ _ := rfl
  entry?_upsert cache signature id := entry?_of_written rfl fun key =>
    OrderedMap.get?_insertMany cache.store.store.entries [(cache.entryKey signature, id.text)] key

end SharedCache

namespace SelectiveCache

variable {σ : Type} [IdCache σ] [SelectiveCache σ]

/-- The records whose entries a cache takes. -/
def accepted (cache : σ) (records : List StoredTag) : List StoredTag :=
  records.filter fun record => (refusal? cache record.signature).isNone

/-- A cache with the entries of records written over its own, one after another. -/
def upsertAll (cache : σ) (records : List StoredTag) : σ :=
  records.foldl (fun cache record => upsert cache record.signature record.id) cache

/-- The last of the entries for a signature stays. -/
theorem entry?_upsertAll (cache : σ) (records : List StoredTag) :
    EntryCache.entry? (upsertAll cache records) = writtenOver (EntryCache.entry? cache)
      (records.map fun record => (record.signature, record.id)) := by
  induction records generalizing cache with
  | nil => rfl
  | cons record rest ih =>
    rw [List.map_cons, writtenOver_cons, ← entry?_upsert]
    exact ih (upsert cache record.signature record.id)

end SelectiveCache

end TagQuery
