import Mathlib.Data.List.Nodup
import TagQuery.Proofs.IdCache.Stored
import TagQuery.Proofs.IdCache.Truthful

/-! Caches that refuse nothing once they are loaded. -/

namespace TagQuery

/-- The entry for a signature after more entries were written over old ones. -/
def writtenOver (old : Signature → Option TagId) (entries : List (Signature × TagId))
    (signature : Signature) : Option TagId :=
  (entries.reverse.lookup signature).or (old signature)

/-- Entries are written one after another. -/
theorem writtenOver_cons (old : Signature → Option TagId) (entry : Signature × TagId)
    (rest : List (Signature × TagId)) :
    writtenOver old (entry :: rest) = writtenOver (writtenOver old [entry]) rest := by
  funext signature
  unfold writtenOver
  rw [List.reverse_cons, List.lookup_append, Option.or_assoc, List.reverse_singleton]

/-- An entry that is written once is found. -/
theorem writtenOver_of_mem {old : Signature → Option TagId} {entries : List (Signature × TagId)}
    (distinct : (entries.map Prod.fst).Nodup) {entry : Signature × TagId} (member : entry ∈ entries) :
    writtenOver old entries entry.1 = some entry.2 := by
  have keys : (OrderedMap.mk entries.reverse).keys.Nodup := by
    rw [OrderedMap.keys, List.map_reverse]
    exact List.nodup_reverse.mpr distinct
  have found := OrderedMap.get?_of_mem keys (List.mem_reverse.mpr member)
  change entries.reverse.lookup entry.1 = some entry.2 at found
  rw [writtenOver, found, Option.some_or]

/-- What is not written stays as it was. -/
theorem writtenOver_of_not_mem {old : Signature → Option TagId}
    {entries : List (Signature × TagId)} {signature : Signature}
    (absent : signature ∉ entries.map Prod.fst) :
    writtenOver old entries signature = old signature := by
  have missing : entries.reverse.lookup signature = none := lastWritten_eq_none_iff.mpr absent
  rw [writtenOver, missing, Option.none_or]

/-- A cache that takes all entries and, once loaded, answers every question. -/
class ReliableCache (σ : Type) [IdCache σ] extends TruthfulCache σ where
  Loaded : σ → Prop
  runFrom_lookup {fits : Signature → TagId → Prop} {cache : σ} (signature : Signature) :
    Loaded cache → OnlyHolds fits false cache → (IdCache.lookup signature).runFrom cache =
      ((EntryCache.entry? cache signature).elim (.error (.notFound signature)) .ok, cache)
  loads (cache : σ) (entries : List (Signature × TagId)) :
    ∃ after, (IdCache.load entries).runFrom cache = (.ok (), after) ∧ Loaded after ∧
      EntryCache.entry? after = writtenOver (EntryCache.entry? cache) entries
  records (cache : σ) (signature : Signature) (id : TagId) :
    ∃ after, (IdCache.record signature id).runFrom cache = (.ok (), after) ∧
      (Loaded cache → Loaded after) ∧
      EntryCache.entry? after = writtenOver (EntryCache.entry? cache) [(signature, id)]

instance : ReliableCache ResidentCache where
  Loaded cache := cache.ready = true
  runFrom_lookup {_ cache} signature loaded _ := by
    rw [ResidentCache.runFrom_lookup, loaded]
    change _ = ((cache.entries.get? signature).elim _ _, cache)
    cases cache.entries.get? signature <;> rfl
  loads cache entries := by
    refine ⟨_, rfl, rfl, ?_⟩
    funext signature
    exact OrderedMap.get?_insertMany cache.entries entries signature
  records cache signature id := by
    refine ⟨_, rfl, fun loaded => loaded, ?_⟩
    funext name
    exact OrderedMap.get?_insertMany cache.entries [(signature, id)] name

namespace SharedCache

/-- The texts of entries are read back from any store that they are written to. -/
theorem entry?_of_written {σ : Type} [KeyValueStore σ] [TextStore σ] {cache after : SharedCache σ}
    {entries : List (Signature × TagId)} (same : after.keyStart = cache.keyStart)
    (texts : ∀ key, TextStore.text? after.store key =
      ((cache.written entries).reverse.lookup key).or (TextStore.text? cache.store key)) :
    after.entry? = writtenOver cache.entry? entries := by
  funext signature
  have keys : after.entryKey signature = cache.entryKey signature := by
    rw [entryKey, entryKey, same]
  have text : TextStore.text? after.store (cache.entryKey signature) =
      ((entries.reverse.lookup signature).map TagId.text).or
        (TextStore.text? cache.store (cache.entryKey signature)) := by
    rw [texts, written, ← List.map_reverse]
    exact congrArg (Option.or · _) (cache.lookup_written entries.reverse signature)
  unfold entry?
  rw [keys, text, writtenOver]
  cases entries.reverse.lookup signature with
  | none => rfl
  | some id => simp [TagId.text, Number.readInt64?_writeInt64]

private theorem entry?_insertMany (cache : SharedCache LocalStore) (ready : Bool)
    (entries : List (Signature × TagId)) :
    SharedCache.entry? ({ cache with ready, store := ⟨cache.store.entries.insertMany
        (entries.map fun entry => (cache.entryKey entry.1, entry.2.text))⟩ } :
      SharedCache LocalStore) = writtenOver (SharedCache.entry? cache) entries :=
  entry?_of_written rfl fun key =>
    OrderedMap.get?_insertMany cache.store.entries (cache.written entries) key

section Steady

variable {σ : Type} [KeyValueStore σ] [SteadyStore σ]

/-- A steady store answers with what it has. -/
theorem runFrom_lookup_steady (cache : SharedCache σ) (signature : Signature) :
    (IdCache.lookup signature).runFrom cache =
      (if cache.ready then
        (TextStore.text? cache.store (cache.entryKey signature)).elim
          (.error (.notFound signature)) (readId (cache.entryKey signature))
      else .error .notReady, cache) := by
  rw [runFrom_lookup_store, SteadyStore.runFrom_get]
  by_cases ready : cache.ready
  · rw [if_pos ready, if_pos ready]
    cases TextStore.text? cache.store (cache.entryKey signature) <;> rfl
  · rw [if_neg ready, if_neg ready]

/-- A steady store answers a batch with what it has. -/
theorem runFrom_lookupMany_steady (cache : SharedCache σ) (signatures : List Signature) :
    (IdCache.lookupMany signatures).runFrom cache =
      (if cache.ready then
        (cache.resolveAnswers (signatures.zip (signatures.map fun signature =>
          TextStore.text? cache.store (cache.entryKey signature)))).map .ofList
      else .error .notReady, cache) := by
  rw [runFrom_lookupMany_store, SteadyStore.runFrom_getMany]
  by_cases ready : cache.ready
  · rw [if_pos ready, if_pos ready]
    by_cases empty : signatures = []
    · subst empty
      rfl
    · rw [if_neg empty, List.map_map]
      dsimp only
      rw [if_pos (List.length_map _)]
      rfl
  · rw [if_neg ready, if_neg ready]

end Steady

/-- A store in the process answers with what it has. -/
theorem runFrom_lookup (cache : SharedCache LocalStore) (signature : Signature) :
    (lookup signature).runFrom cache =
      (if cache.ready then
        (cache.store.entries.get? (cache.entryKey signature)).elim
          (.error (.notFound signature)) (readId (cache.entryKey signature))
      else .error .notReady, cache) :=
  runFrom_lookup_steady cache signature

/-- A store in the process takes all entries, and having none to take is no obstacle. -/
theorem runFrom_load (cache : SharedCache LocalStore) (entries : List (Signature × TagId)) :
    (load entries).runFrom cache = (.ok (), { cache with
      ready := true
      store := ⟨cache.store.entries.insertMany
        (entries.map fun entry => (cache.entryKey entry.1, entry.2.text))⟩ }) := by
  refine (runFrom_load_store cache entries).trans ?_
  by_cases empty : entries = []
  · subst empty
    rfl
  · rw [if_neg empty]
    rfl

/-- A store in the process answers a batch with what it has. -/
theorem runFrom_lookupMany (cache : SharedCache LocalStore) (signatures : List Signature) :
    (lookupMany signatures).runFrom cache =
      (if cache.ready then
        (cache.resolveAnswers (signatures.zip (signatures.map fun signature =>
          cache.store.entries.get? (cache.entryKey signature)))).map .ofList
      else .error .notReady, cache) :=
  runFrom_lookupMany_steady cache signatures

instance : ReliableCache (SharedCache LocalStore) where
  Loaded cache := cache.ready = true
  runFrom_lookup {_ cache} signature loaded held := by
    change (lookup signature).runFrom cache = ((cache.entry? signature).elim _ _, cache)
    rw [runFrom_lookup, if_pos loaded, entry?]
    change _ = ((((cache.store.entries.get? (cache.entryKey signature)).bind _).map _).elim _ _, _)
    cases found : cache.store.entries.get? (cache.entryKey signature) with
    | none => rfl
    | some text =>
      obtain ⟨id, rfl, _⟩ := held.fit signature text found
      simp [readId, TagId.text, Number.readInt64?_writeInt64]
  loads cache entries :=
    ⟨_, runFrom_load cache entries, rfl, entry?_insertMany cache true entries⟩
  records cache signature id :=
    ⟨_, rfl, fun loaded => loaded, entry?_insertMany cache cache.ready [(signature, id)]⟩

end SharedCache

end TagQuery
