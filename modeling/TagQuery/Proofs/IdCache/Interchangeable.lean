import TagQuery.Proofs.IdCache.Reliable
import TagQuery.Proofs.OrderedMap.Renamed

/-! A cache in the process and one in a store of the process cannot be told apart by what
they answer, nor by how many entries they have. -/

namespace TagQuery

/-- A call of a cache. -/
inductive CacheCall where
  | load (entries : List (Signature × TagId))
  | lookup (signature : Signature)
  | lookupMany (signatures : List Signature)
  | record (signature : Signature) (id : TagId)

/-- What a call answers. -/
inductive CacheReply where
  | done
  | found (id : TagId)
  | resolved (resolution : Resolution)
deriving DecidableEq, Repr

namespace CacheCall

variable {σ : Type} [IdCache σ]

def perform (cache : σ) : CacheCall → Except CacheFault CacheReply × σ
  | .load entries => replying (fun _ => .done) (IdCache.load entries)
  | .lookup signature => replying .found (IdCache.lookup signature)
  | .lookupMany signatures => replying .resolved (IdCache.lookupMany signatures)
  | .record signature id => replying (fun _ => .done) (IdCache.record signature id)
where
  /-- The result of a step as an answer, and the cache after it. -/
  replying {α : Type} (reply : α → CacheReply) (step : Action CacheFault σ α) :
      Except CacheFault CacheReply × σ :=
    ((step.runFrom cache).1.map reply, (step.runFrom cache).2)

/-- The answers to calls one after another, each with the number of entries after it. -/
def transcript (size : σ → Nat) : σ → List CacheCall → List (Except CacheFault CacheReply × Nat)
  | _, [] => []
  | cache, call :: rest =>
    let (answer, after) := call.perform cache
    (answer, size after) :: transcript size after rest

end CacheCall

namespace ResidentCache

/-- The cache in a store that has what a resident cache has. -/
def shared (keyStart : String) (cache : ResidentCache) : SharedCache LocalStore where
  store := ⟨cache.entries.renamed (fun signature => keyStart ++ signature.text) TagId.text⟩
  keyStart := keyStart
  ready := cache.ready

variable (keyStart : String) (cache : ResidentCache)

private theorem keys_apart :
    Function.Injective fun signature : Signature => keyStart ++ signature.text :=
  (SharedCache.ofSettings ({} : LocalStore) ⟨keyStart⟩).entryKey_injective

private theorem text_shared (signature : Signature) :
    (cache.shared keyStart).store.entries.get? ((cache.shared keyStart).entryKey signature) =
      (cache.entries.get? signature).map TagId.text :=
  OrderedMap.get?_renamed (keys_apart keyStart) TagId.text cache.entries signature

private theorem load_shared (entries : List (Signature × TagId)) :
    (IdCache.load entries).runFrom (cache.shared keyStart) =
      (.ok (), ((IdCache.load entries).runFrom cache).2.shared keyStart) := by
  have written := OrderedMap.insertMany_renamed (keys_apart keyStart) TagId.text cache.entries
    entries
  refine (SharedCache.runFrom_load (cache.shared keyStart) entries).trans ?_
  exact congrArg (fun map => (Except.ok (), SharedCache.mk (LocalStore.mk map) keyStart true)) written

private theorem record_shared (signature : Signature) (id : TagId) :
    (IdCache.record signature id).runFrom (cache.shared keyStart) =
      (.ok (), ((IdCache.record signature id).runFrom cache).2.shared keyStart) := by
  have written := OrderedMap.insert_renamed (keys_apart keyStart) TagId.text cache.entries
    signature id
  exact congrArg
    (fun map => (Except.ok (), SharedCache.mk (LocalStore.mk map) keyStart cache.ready)) written

private theorem lookup_shared (signature : Signature) :
    (IdCache.lookup signature).runFrom (cache.shared keyStart) =
      (((IdCache.lookup signature).runFrom cache).1, cache.shared keyStart) := by
  refine (SharedCache.runFrom_lookup (cache.shared keyStart) signature).trans ?_
  rw [text_shared, ResidentCache.runFrom_lookup]
  cases cache.entries.get? signature with
  | none => rfl
  | some id =>
    simp only [Option.map_some, Option.elim_some, SharedCache.readId_text]
    rfl

private theorem lookupMany_shared (signatures : List Signature) :
    (IdCache.lookupMany signatures).runFrom (cache.shared keyStart) =
      (((IdCache.lookupMany signatures).runFrom cache).1, cache.shared keyStart) := by
  have texts : signatures.map (fun signature => (cache.shared keyStart).store.entries.get?
      ((cache.shared keyStart).entryKey signature)) =
        signatures.map fun signature => (cache.entries.get? signature).map TagId.text :=
    List.map_congr_left fun signature _ => text_shared keyStart cache signature
  refine (SharedCache.runFrom_lookupMany (cache.shared keyStart) signatures).trans ?_
  rw [texts, SharedCache.resolveAnswers_texts, runFrom_lookupMany]
  rfl

/-- A call is answered from the store as it is from the process, and leaves the store with
what it leaves in the process. -/
theorem perform_shared (call : CacheCall) :
    call.perform (cache.shared keyStart) =
      ((call.perform cache).1, (call.perform cache).2.shared keyStart) := by
  cases call with
  | load entries => rw [CacheCall.perform, CacheCall.perform.replying, load_shared]; rfl
  | lookup signature =>
    rw [CacheCall.perform, CacheCall.perform.replying, lookup_shared, CacheCall.perform,
      CacheCall.perform.replying, runFrom_lookup]
  | lookupMany signatures =>
    rw [CacheCall.perform, CacheCall.perform.replying, lookupMany_shared, CacheCall.perform,
      CacheCall.perform.replying, runFrom_lookupMany]
  | record signature id => rw [CacheCall.perform, CacheCall.perform.replying, record_shared]; rfl

theorem transcript_shared (calls : List CacheCall) :
    CacheCall.transcript (·.store.entries.size) (cache.shared keyStart) calls =
      CacheCall.transcript (·.entries.size) cache calls := by
  induction calls generalizing cache with
  | nil => rfl
  | cons call rest ih =>
    rw [CacheCall.transcript, CacheCall.transcript, perform_shared]
    exact congrArg₂ List.cons (Prod.ext rfl (OrderedMap.size_renamed _ _ _)) (ih _)

end ResidentCache

/-- Whatever is asked of a new cache in the process and of one in a new store, in any order and
under any beginning of the keys, both answer the same and have equally many entries. -/
theorem CacheCall.transcript_new (keyStart : String) (calls : List CacheCall) :
    transcript (·.store.entries.size) (SharedCache.ofSettings ({} : LocalStore) ⟨keyStart⟩) calls =
      transcript (·.entries.size) ({} : ResidentCache) calls :=
  ResidentCache.transcript_shared keyStart {} calls

end TagQuery
