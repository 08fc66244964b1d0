import TagQuery.IdCache.Shared
import TagQuery.IdCache.Unreliable
import TagQuery.Proofs.Action.Outcome
import TagQuery.Proofs.KeyValueStore.Texts

/-! What caches hold, and that a batch look-up answers with it. -/

namespace TagQuery

/-- A cache whose entries are known: a batch that is answered has those of its signatures. -/
class EntryCache (σ : Type) [IdCache σ] where
  entry? : σ → Signature → Option TagId
  get?_of_lookupMany {cache after : σ} {signatures : List Signature} {resolved : Resolution} :
    (IdCache.lookupMany signatures).runFrom cache = (.ok resolved, after) →
      ∀ signature ∈ signatures, resolved.get? signature = entry? cache signature

/-- The resolution of a batch against known entries. -/
theorem get?_ofList_filterMap (entry : Signature → Option TagId) {signatures : List Signature}
    {signature : Signature} (member : signature ∈ signatures) :
    (OrderedMap.ofList (signatures.filterMap fun name => (entry name).map fun id => (name, id))).get?
      signature = entry signature := by
  have lookup (names : List Signature) : (names.filterMap fun name =>
      (entry name).map fun id => (name, id)).lookup signature =
        if signature ∈ names then entry signature else none := by
    induction names with
    | nil => rfl
    | cons first rest ih =>
      by_cases same : signature = first
      · subst same
        cases held : entry signature with
        | none => rw [List.filterMap_cons, held, Option.map_none, ih, held, ite_self, ite_self]
        | some id => simp [held]
      · have test : (signature == first) = false := beq_false_of_ne same
        cases held : entry first with
        | none => simp [held, ih, same]
        | some id => simp [held, List.lookup_cons, test, ih, same]
  rw [OrderedMap.get?_ofList, ← List.filterMap_reverse, lookup]
  simp [member]

namespace ResidentCache

theorem runFrom_requireReady (cache : ResidentCache) : requireReady.runFrom cache =
    (if cache.ready then .ok () else .error .notReady, cache) := by
  cases ready : cache.ready <;> simp [requireReady, Action.runFrom_bind, ready]

theorem runFrom_lookupMany (cache : ResidentCache) (signatures : List Signature) :
    (IdCache.lookupMany signatures).runFrom cache =
      (if cache.ready then .ok (.ofList (cache.known signatures)) else .error .notReady, cache) := by
  change (requireReady >>= fun _ => _).runFrom cache = _
  rw [Action.runFrom_bind, runFrom_requireReady]
  cases cache.ready <;> rfl

instance : EntryCache ResidentCache where
  entry? cache := cache.entries.get?
  get?_of_lookupMany {cache} _ _ _ ran signature member := by
    rw [runFrom_lookupMany] at ran
    split at ran
    · cases ran
      exact get?_ofList_filterMap cache.entries.get? member
    · cases ran

end ResidentCache

namespace SharedCache

variable {σ : Type}

theorem runFrom_requireReady (cache : SharedCache σ) : requireReady.runFrom cache =
    (if cache.ready then .ok () else .error .notReady, cache) := by
  cases ready : cache.ready <;> simp [requireReady, Action.runFrom_bind, ready]

variable [KeyValueStore σ] [TextStore σ]

/-- The identifier that the text under a signature's key is read as. -/
def entry? (cache : SharedCache σ) (signature : Signature) : Option TagId :=
  ((TextStore.text? cache.store (cache.entryKey signature)).bind Number.readInt64?).map TagId.mk

private theorem resolveAnswers_ok {cache : SharedCache σ} {signatures : List Signature}
    {resolved : List (Signature × TagId)}
    (ran : cache.resolveAnswers (signatures.zip (signatures.map fun signature =>
      TextStore.text? cache.store (cache.entryKey signature))) = .ok resolved) :
    resolved = signatures.filterMap fun signature =>
      (cache.entry? signature).map fun id => (signature, id) := by
  induction signatures generalizing resolved with
  | nil =>
    cases ran
    rfl
  | cons first rest ih =>
    rw [List.map_cons, List.zip_cons_cons] at ran
    cases held : TextStore.text? cache.store (cache.entryKey first) with
    | none =>
      rw [held] at ran
      rw [List.filterMap_cons, entry?, held]
      exact ih ran
    | some text =>
      rw [held] at ran
      obtain ⟨id, read, more⟩ := Outcome.of_bind_ok ran
      obtain ⟨others, later, same⟩ := Outcome.of_bind_ok more
      cases same
      unfold readId at read
      split at read
      · next number parsed =>
        cases read
        rw [List.filterMap_cons, entry?, held, Option.bind_some, parsed, ih later]
        rfl
      · cases read

/-- An answered batch is what the answers of the store are read as. -/
theorem of_lookupMany_ok {cache after : SharedCache σ} {signatures : List Signature}
    {resolved : Resolution} (filled : signatures ≠ [])
    (ran : (lookupMany signatures).runFrom cache = (.ok resolved, after)) :
    cache.ready = true ∧ resolved = .ofList (signatures.filterMap fun signature =>
      (cache.entry? signature).map fun id => (signature, id)) := by
  obtain ⟨_, middle, ready, more⟩ := Action.of_runFrom_bind_ok ran
  rw [runFrom_requireReady, Prod.mk.injEq] at ready
  obtain ⟨ready, rfl⟩ := ready
  rw [if_neg filled] at more
  obtain ⟨_, middle, here, more⟩ := Action.of_runFrom_bind_ok more
  cases here
  obtain ⟨answers, middle, asked, more⟩ := Action.of_runFrom_bind_ok more
  have answered : (KeyValueStore.getMany (signatures.map cache.entryKey)).runFrom cache.store =
      (.ok answers, middle.store) := by
    simp only [onStore, Action.runFrom_onPart, Action.runFrom_mapFault, Prod.mk.injEq,
      Outcome.mapError_ok_iff] at asked
    obtain ⟨answer, rfl⟩ := asked
    exact Prod.ext answer rfl
  by_cases short : answers.length = signatures.length
  · rw [if_neg (by simp [short])] at more
    obtain ⟨entries, _, read, last⟩ := Action.of_runFrom_bind_ok more
    cases last
    rw [Action.runFrom_ofExcept, Prod.mk.injEq] at read
    have full : answers.length = (signatures.map cache.entryKey).length := by simpa using short
    rw [TextStore.answers_of_getMany answered full, List.map_map] at read
    refine ⟨?_, by rw [resolveAnswers_ok read.1]⟩
    cases known : cache.ready
    · simp [known] at ready
    · rfl
  · rw [if_pos (by simpa using short)] at more
    cases more

instance : EntryCache (SharedCache σ) where
  entry? := entry?
  get?_of_lookupMany {cache} _ signatures _ ran signature member := by
    have filled : signatures ≠ [] := List.ne_nil_of_mem member
    rw [(of_lookupMany_ok filled ran).2]
    exact get?_ofList_filterMap cache.entry? member

end SharedCache

/-- Looking a batch up one by one finds the entries that the single look-ups find. -/
theorem of_resolveEach_ok {σ : Type} {lookup : Signature → Action CacheFault σ TagId}
    (entry : Signature → Option TagId) {cache after : σ} {signatures : List Signature}
    {resolved : Resolution} (steady : ∀ signature, ((lookup signature).runFrom cache).2 = cache)
    (found : ∀ signature id, ((lookup signature).runFrom cache).1 = .ok id →
      entry signature = some id)
    (missing : ∀ signature name, ((lookup signature).runFrom cache).1 = .error (.notFound name) →
      entry signature = none)
    (ran : (resolveEach lookup signatures).runFrom cache = (.ok resolved, after)) :
    after = cache ∧ resolved = .ofList (signatures.filterMap fun signature =>
      (entry signature).map fun id => (signature, id)) := by
  unfold resolveEach at ran
  unfold OrderedMap.ofList
  generalize (OrderedMap.empty : Resolution) = known at ran ⊢
  induction signatures generalizing known with
  | nil =>
    cases ran
    exact ⟨rfl, rfl⟩
  | cons first rest ih =>
    rw [List.foldlM_cons] at ran
    obtain ⟨next, middle, head, tail⟩ := Action.of_runFrom_bind_ok ran
    obtain ⟨answer, middle', asked, more⟩ := Action.of_runFrom_bind_ok head
    rw [Action.runFrom_attempt, steady, Prod.mk.injEq] at asked
    obtain ⟨asked, rfl⟩ := asked
    rcases outcome : ((lookup first).runFrom cache).1 with fault | id
    · rw [outcome] at asked
      cases asked
      cases fault with
      | notFound name =>
        cases more
        rw [List.filterMap_cons, missing first name outcome]
        exact ih _ tail
      | unavailable reason => cases more
      | notReady => cases more
      | invalidEntry key value => cases more
    · rw [outcome] at asked
      cases asked
      cases more
      rw [List.filterMap_cons, found first id outcome]
      exact ih _ tail

namespace ResidentCache

theorem runFrom_lookup (cache : ResidentCache) (signature : Signature) :
    (IdCache.lookup signature).runFrom cache =
      (if cache.ready then
        match cache.entries.get? signature with
        | some id => .ok id
        | none => .error (.notFound signature)
      else .error .notReady, cache) := by
  change (requireReady >>= fun _ => _).runFrom cache = _
  rw [Action.runFrom_bind, runFrom_requireReady]
  cases cache.ready with
  | false => rfl
  | true => cases held : cache.entries.get? signature <;> simp [Action.runFrom_bind, held]

end ResidentCache

namespace UnreliableCache

theorem runFrom_lookup (unreliable : UnreliableCache) (signature : Signature) :
    (IdCache.lookup signature).runFrom unreliable =
      (if unreliable.fails signature then .error (.unavailable ("timeout on " ++ signature.text))
      else ((IdCache.lookup signature).runFrom unreliable.cache).1, unreliable) := by
  change (concerning signature (IdCache.lookup signature)).runFrom unreliable = _
  cases refused : unreliable.fails signature <;>
    simp [concerning, onCache, Action.runFrom_bind, refused, ResidentCache.runFrom_lookup]

instance : EntryCache UnreliableCache where
  entry? unreliable := unreliable.cache.entries.get?
  get?_of_lookupMany {unreliable _ _ _} ran signature member := by
    have one := runFrom_lookup unreliable
    simp only [ResidentCache.runFrom_lookup] at one
    have steady : ∀ name, ((IdCache.lookup name).runFrom unreliable).2 = unreliable := by
      simp [one]
    have answers := of_resolveEach_ok unreliable.cache.entries.get? steady ?_ ?_ ran
    · rw [answers.2]
      exact get?_ofList_filterMap _ member
    · intro name id answer
      rw [one] at answer
      grind
    · intro name other answer
      rw [one] at answer
      grind

end UnreliableCache

end TagQuery
