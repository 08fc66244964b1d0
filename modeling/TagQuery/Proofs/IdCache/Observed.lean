import TagQuery.Proofs.IdCache.Interchangeable
import TagQuery.Proofs.IdCache.Stored

/-! A cache that keeps each call with the state it was made in, and what may be relied on when
a cache is asked and when it is written. -/

namespace TagQuery

variable {σ : Type}

namespace CacheCall

/-- A call that asks a cache and gives it nothing. -/
def isLookUp : CacheCall → Bool
  | .lookup _ | .lookupMany _ => true
  | .load _ | .record _ _ => false

variable [IdCache σ]

/-- The cache after a call, whether it fails or not. -/
def effect (call : CacheCall) (cache : σ) : σ := (call.perform cache).2

/-- A call that was made in some state failed. -/
def FailsWith (made : σ × CacheCall) (fault : CacheFault) : Prop :=
  (made.2.perform made.1).1 = .error fault

end CacheCall

/-- A cache that never takes what it is given for a question. -/
def IdCache.AcceptsWrites (σ : Type) [IdCache σ] : Prop :=
  ∀ (cache : σ) (call : CacheCall) (name : Signature), call.isLookUp = false →
    ¬ CacheCall.FailsWith (cache, call) (.notFound name)

/-- A cache that look-ups leave as it is. -/
def IdCache.KeepsOnLookUp (σ : Type) [IdCache σ] : Prop :=
  ∀ (cache : σ) (call : CacheCall), call.isLookUp → call.effect cache = cache

theorem ResidentCache.acceptsWrites : IdCache.AcceptsWrites ResidentCache := by
  intro cache call name write failed
  cases call with
  | load entries => cases failed
  | record signature id => cases failed
  | lookup signature => cases write
  | lookupMany signatures => cases write

theorem ResidentCache.keepsOnLookUp : IdCache.KeepsOnLookUp ResidentCache := by
  intro cache call asks
  cases call with
  | lookup signature =>
    exact congrArg Prod.snd (ResidentCache.runFrom_lookup cache signature)
  | lookupMany signatures =>
    exact congrArg Prod.snd (ResidentCache.runFrom_lookupMany cache signatures)
  | load entries => cases asks
  | record signature id => cases asks

/-- A refusal of the store is never an answer about a signature. -/
theorem SharedCache.acceptsWrites [KeyValueStore σ] : IdCache.AcceptsWrites (SharedCache σ) := by
  intro cache call name write failed
  cases call with
  | load entries =>
    change ((IdCache.load entries).runFrom cache).1.map _ = _ at failed
    rw [Outcome.map_error_iff, runFrom_load_store] at failed
    split at failed <;> cases failed
  | record signature id =>
    change ((IdCache.record signature id).runFrom cache).1.map _ = _ at failed
    rw [Outcome.map_error_iff, runFrom_record_store] at failed
    generalize (KeyValueStore.set (cache.entryKey signature) id.text).runFrom cache.store = stored
      at failed
    obtain ⟨refusal | _, store⟩ := stored <;> cases failed
  | lookup signature => cases write
  | lookupMany signatures => cases write

theorem SharedCache.keepsOnLookUp : IdCache.KeepsOnLookUp (SharedCache LocalStore) := by
  intro cache call asks
  cases call with
  | lookup signature =>
    exact congrArg Prod.snd (SharedCache.runFrom_lookup cache signature)
  | lookupMany signatures =>
    exact congrArg Prod.snd (SharedCache.runFrom_lookupMany cache signatures)
  | load entries => cases asks
  | record signature id => cases asks

/-- A cache with every call made to it, failed ones included, and the state it was in. -/
structure ObservedCache (σ : Type) where
  cache : σ
  history : List (σ × CacheCall) := []

namespace ObservedCache

/-- Note a call with the state before it, and make it. -/
def making {α : Type} (call : CacheCall) (action : Action CacheFault σ α) :
    Action CacheFault (ObservedCache σ) α := do
  modify fun observed =>
    { observed with history := observed.history ++ [(observed.cache, call)] }
  action.onPart ObservedCache.cache fun observed cache => { observed with cache }

instance [IdCache σ] : IdCache (ObservedCache σ) where
  load entries := making (.load entries) (IdCache.load entries)
  lookup signature := making (.lookup signature) (IdCache.lookup signature)
  lookupMany signatures := making (.lookupMany signatures) (IdCache.lookupMany signatures)
  record signature id := making (.record signature id) (IdCache.record signature id)

/-- A cache after a call, which is kept. -/
def after [IdCache σ] (call : CacheCall) (observed : ObservedCache σ) : ObservedCache σ :=
  ⟨call.effect observed.cache, observed.history ++ [(observed.cache, call)]⟩

/-- A call that is kept is made, and fails as it does without being kept. -/
theorem of_making [IdCache σ] {α : Type} {call : CacheCall} {action : Action CacheFault σ α}
    {reply : α → CacheReply} {observed later : ObservedCache σ} {answer : Except CacheFault α}
    (performs : call.perform observed.cache =
      ((action.runFrom observed.cache).1.map reply, (action.runFrom observed.cache).2))
    (ran : (making call action).runFrom observed = (answer, later)) :
    later = observed.after call ∧
      ∀ fault, CacheCall.FailsWith (observed.cache, call) fault ↔ answer = .error fault := by
  change ((action.runFrom observed.cache).1, ObservedCache.mk (action.runFrom observed.cache).2
    (observed.history ++ [(observed.cache, call)])) = (answer, later) at ran
  obtain ⟨rfl, rfl⟩ := Prod.mk.inj ran
  refine ⟨?_, fun fault => ?_⟩
  · rw [after, CacheCall.effect, performs]
  · rw [CacheCall.FailsWith, performs, Outcome.map_error_iff]

theorem runFrom_lookupMany [IdCache σ] (signatures : List Signature) (observed : ObservedCache σ) :
    (IdCache.lookupMany signatures).runFrom observed =
      (((IdCache.lookupMany signatures).runFrom observed.cache).1,
        observed.after (.lookupMany signatures)) :=
  rfl

end ObservedCache

end TagQuery
