import TagQuery.IdCache.Shared
import TagQuery.Proofs.IdCache.Bounded
import TagQuery.Proofs.IdCache.Entries
import TagQuery.Proofs.Number.Decimal

/-! What a cache asks of its store, and what it makes of the answers. -/

namespace TagQuery

/-- The identifier that was written last for a signature. -/
def lastWritten (entries : List (Signature × TagId)) (signature : Signature) : Option TagId :=
  entries.reverse.lookup signature

theorem lastWritten_eq_none_iff {entries : List (Signature × TagId)} {signature : Signature} :
    lastWritten entries signature = none ↔ signature ∉ entries.map Prod.fst :=
  OrderedMap.lookup_reverse_eq_none_iff entries signature

namespace SharedCache

variable {σ : Type} (cache : SharedCache σ)

/-- Entries as they are written to the store. -/
def written (entries : List (Signature × TagId)) : List (String × String) :=
  entries.map fun entry => (cache.entryKey entry.1, entry.2.text)

/-- Signatures have keys of their own. -/
theorem lookup_written (entries : List (Signature × TagId)) (signature : Signature) :
    (cache.written entries).lookup (cache.entryKey signature) =
      (entries.lookup signature).map TagId.text := by
  unfold written
  induction entries with
  | nil => rfl
  | cons first rest ih =>
    obtain ⟨name, id⟩ := first
    by_cases same : signature = name
    · subst same
      simp
    · have apart : cache.entryKey signature ≠ cache.entryKey name :=
        fun keys => same (cache.entryKey_injective keys)
      simp [List.lookup_cons, beq_false_of_ne same, beq_false_of_ne apart, ih]

theorem readId_text (key : String) (id : TagId) : readId key id.text = .ok id := by
  rw [readId, TagId.text, Number.readInt64?_writeInt64]

/-- Answers that are texts of identifiers resolve the signatures that have one. -/
theorem resolveAnswers_texts (known : Signature → Option TagId) (signatures : List Signature) :
    cache.resolveAnswers
        (signatures.zip (signatures.map fun signature => (known signature).map TagId.text)) =
      .ok (signatures.filterMap fun signature => (known signature).map fun id => (signature, id)) := by
  induction signatures with
  | nil => rfl
  | cons first rest ih =>
    rw [List.map_cons, List.zip_cons_cons, List.filterMap_cons]
    cases known first with
    | none => exact ih
    | some id =>
      rw [Option.map_some, resolveAnswers, readId_text, ih]
      rfl

/-- What is made of answers depends on the cache by the keys of its entries alone. -/
theorem resolveAnswers_congr {cache cache' : SharedCache σ} (same : cache.keyStart = cache'.keyStart)
    (answers : List (Signature × Option String)) :
    cache.resolveAnswers answers = cache'.resolveAnswers answers := by
  have keys : cache.entryKey = cache'.entryKey := by
    funext signature
    rw [entryKey, same, entryKey]
  induction answers with
  | nil => rfl
  | cons answer rest ih =>
    obtain ⟨signature, _ | text⟩ := answer
    · exact ih
    · rw [resolveAnswers, resolveAnswers, keys, ih]

variable [KeyValueStore σ]

/-- The cache is ready once the store took all entries; no entries are not even offered. -/
theorem runFrom_load_store (entries : List (Signature × TagId)) :
    (IdCache.load entries).runFrom cache =
      match if entries = [] then (.ok (), cache.store)
        else (KeyValueStore.setMany (cache.written entries)).runFrom cache.store with
      | (.ok (), store) => (.ok (), { cache with store, ready := true })
      | (.error refusal, store) => (.error (.ofRefusal refusal), { cache with store }) := by
  change (load entries).runFrom cache = _
  unfold load
  rw [Action.runFrom_bind_of_ok (Action.runFrom_get cache)]
  by_cases empty : entries = []
  · rw [if_neg (not_not_intro empty), if_pos empty]
    rfl
  · rw [if_pos empty, if_neg empty, Action.runFrom_bind, runFrom_onStore]
    have keyed : entries.map (fun entry => (cache.entryKey entry.1, entry.2.text)) =
      cache.written entries := rfl
    rw [keyed]
    rcases (KeyValueStore.setMany (cache.written entries)).runFrom cache.store with
      ⟨refusal | _, store⟩ <;> rfl

theorem runFrom_record_store (signature : Signature) (id : TagId) :
    (IdCache.record signature id).runFrom cache =
      (((KeyValueStore.set (cache.entryKey signature) id.text).runFrom cache.store).1.mapError
          .ofRefusal,
        { cache with
          store := ((KeyValueStore.set (cache.entryKey signature) id.text).runFrom
            cache.store).2 }) :=
  rfl

/-- A look-up is one question to the store of a cache that is ready. -/
theorem runFrom_lookup_store (signature : Signature) :
    (IdCache.lookup signature).runFrom cache =
      if cache.ready then
        match (KeyValueStore.get (cache.entryKey signature)).runFrom cache.store with
        | (.ok (some text), store) => (readId (cache.entryKey signature) text, { cache with store })
        | (.ok none, store) => (.error (.notFound signature), { cache with store })
        | (.error refusal, store) => (.error (.ofRefusal refusal), { cache with store })
      else (.error .notReady, cache) := by
  change (lookup signature).runFrom cache = _
  unfold lookup
  rw [Action.runFrom_bind, runFrom_requireReady]
  by_cases ready : cache.ready
  · rw [if_pos ready, if_pos ready]
    dsimp only
    rw [Action.runFrom_bind_of_ok (Action.runFrom_get cache), Action.runFrom_bind, runFrom_onStore]
    rcases (KeyValueStore.get (cache.entryKey signature)).runFrom cache.store with
      ⟨refusal | answer, store⟩
    · rfl
    · cases answer <;> rfl
  · rw [if_neg ready, if_neg ready]

/-- A batch is one question to the store, and one to a store that answers in full is read. -/
theorem runFrom_lookupMany_store (signatures : List Signature) :
    (IdCache.lookupMany signatures).runFrom cache =
      if cache.ready then
        if signatures = [] then (.ok .empty, cache)
        else match (KeyValueStore.getMany (signatures.map cache.entryKey)).runFrom cache.store with
        | (.ok answers, store) =>
          (if answers.length = signatures.length then
            (cache.resolveAnswers (signatures.zip answers)).map .ofList
          else .error (.unavailable ("store answered " ++ Number.writeNat answers.length ++ " of " ++
            Number.writeNat signatures.length ++ " keys")), { cache with store })
        | (.error refusal, store) => (.error (.ofRefusal refusal), { cache with store })
      else (.error .notReady, cache) := by
  change (lookupMany signatures).runFrom cache = _
  unfold lookupMany
  rw [Action.runFrom_bind, runFrom_requireReady]
  by_cases ready : cache.ready
  · rw [if_pos ready, if_pos ready]
    dsimp only
    by_cases empty : signatures = []
    · rw [if_pos empty, if_pos empty]
      rfl
    · rw [if_neg empty, if_neg empty, Action.runFrom_bind_of_ok (Action.runFrom_get cache)]
      have stored := runFrom_onStore (KeyValueStore.getMany (signatures.map cache.entryKey)) cache
      generalize (KeyValueStore.getMany (signatures.map cache.entryKey)).runFrom cache.store = asked
        at stored ⊢
      obtain ⟨refusal | answers, store⟩ := asked
      · exact Action.runFrom_bind_of_error stored
      · refine (Action.runFrom_bind_of_ok stored).trans ?_
        by_cases full : answers.length = signatures.length
        · rw [if_neg (not_not_intro full)]
          dsimp only
          rw [if_pos full, Action.runFrom_bind, Action.runFrom_ofExcept]
          cases cache.resolveAnswers (signatures.zip answers) <;> rfl
        · rw [if_pos full]
          dsimp only
          rw [if_neg full]
          rfl
  · rw [if_neg ready, if_neg ready]

end SharedCache

end TagQuery
