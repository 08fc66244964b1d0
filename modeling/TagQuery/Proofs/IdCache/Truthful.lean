import TagQuery.Proofs.IdCache.Bounded
import TagQuery.Proofs.IdCache.Entries
import TagQuery.Proofs.Number.Decimal

/-! Caches that answer with what they hold, and hold what they were given. -/

namespace TagQuery

/-- A cache that answers with its entries, all of which fit. -/
class TruthfulCache (σ : Type) [IdCache σ] extends EntryCache σ, BoundedCache σ where
  fits_of_entry? {fits : Signature → TagId → Prop} {loaded : Bool} {cache : σ}
    {signature : Signature} {id : TagId} : OnlyHolds fits loaded cache →
      entry? cache signature = some id → fits signature id
  entry?_of_lookup {cache after : σ} {signature : Signature} {id : TagId} :
    (IdCache.lookup signature).runFrom cache = (.ok id, after) → entry? cache signature = some id

/-- A cache without entries: no entry would fit. -/
def BoundedCache.HoldsNothing {σ : Type} [IdCache σ] [BoundedCache σ] (cache : σ) : Prop :=
  OnlyHolds (fun _ _ => False) false cache

namespace ResidentCache

variable {fits : Signature → TagId → Prop} {loaded : Bool}

structure OnlyHolds (fits : Signature → TagId → Prop) (loaded : Bool) (cache : ResidentCache) :
    Prop where
  ready : loaded = true → cache.ready = true
  fit (signature : Signature) (id : TagId) : cache.entries.get? signature = some id →
    fits signature id

private theorem keeps_load {entries : List (Signature × TagId)}
    (good : ∀ entry ∈ entries, fits entry.1 entry.2) :
    Action.Keeps (OnlyHolds fits loaded) (IdCache.load entries : Action _ ResidentCache _) := by
  refine .modify fun cache held => ⟨fun _ => rfl, fun signature id found => ?_⟩
  rw [OrderedMap.get?_insertMany, Option.or_eq_some_iff] at found
  rcases found with new | ⟨_, old⟩
  · have member : (signature, id) ∈ entries.reverse := @OrderedMap.mem_of_get? _ _ _ ⟨_⟩ _ _ new
    exact good _ (List.mem_reverse.mp member)
  · exact held.fit signature id old

private theorem keeps_record {signature : Signature} {id : TagId} (good : fits signature id) :
    Action.Keeps (OnlyHolds fits loaded)
      (IdCache.record signature id : Action _ ResidentCache _) := by
  refine .modify fun cache held => ⟨held.ready, fun name other found => ?_⟩
  rw [OrderedMap.get?_insert] at found
  split at found
  · next same =>
    cases found
    exact same ▸ good
  · exact held.fit name other found

instance : BoundedCache ResidentCache where
  OnlyHolds := OnlyHolds
  onlyHolds_imp weaken held :=
    ⟨held.ready, fun signature id found => weaken signature id (held.fit signature id found)⟩
  keeps_load := keeps_load
  keeps_lookup _ _ signature cache held := by
    rw [runFrom_lookup]
    exact held
  keeps_lookupMany _ _ signatures cache held := by
    rw [runFrom_lookupMany]
    exact held
  keeps_record := keeps_record

instance : TruthfulCache ResidentCache where
  fits_of_entry? held found := held.fit _ _ found
  entry?_of_lookup {cache _ signature id} ran := by
    rw [runFrom_lookup] at ran
    change cache.entries.get? signature = some id
    cases held : cache.entries.get? signature <;> cases ready : cache.ready <;>
      simp_all

end ResidentCache

namespace SharedCache

variable {σ : Type} [KeyValueStore σ] [HonestStore σ]

theorem of_lookup_ok {cache after : SharedCache σ} {signature : Signature} {id : TagId}
    (ran : (lookup signature).runFrom cache = (.ok id, after)) :
    cache.entry? signature = some id := by
  obtain ⟨_, middle, ready, more⟩ := Action.of_runFrom_bind_ok ran
  rw [runFrom_requireReady, Prod.mk.injEq] at ready
  obtain ⟨_, rfl⟩ := ready
  obtain ⟨_, middle, here, more⟩ := Action.of_runFrom_bind_ok more
  cases here
  obtain ⟨answer, middle, asked, more⟩ := Action.of_runFrom_bind_ok more
  have answered : (KeyValueStore.get (cache.entryKey signature)).runFrom cache.store =
      (.ok answer, middle.store) := by
    simp only [runFrom_onStore, Prod.mk.injEq, Outcome.mapError_ok_iff] at asked
    obtain ⟨got, rfl⟩ := asked
    exact Prod.ext got rfl
  cases answer with
  | none => cases more
  | some text =>
    rw [SharedCache.entry?, ← HonestStore.answer_of_get answered]
    dsimp only at more
    rw [Action.runFrom_ofExcept, Prod.mk.injEq, readId] at more
    cases parsed : Number.readInt64? text with
    | none => simp [parsed] at more
    | some number =>
      rw [parsed] at more
      cases more.1
      simp [parsed]

instance : TruthfulCache (SharedCache σ) where
  fits_of_entry? {fits _ cache signature id} held found := by
    change (((TextStore.text? cache.store (cache.entryKey signature)).bind
      Number.readInt64?).map TagId.mk) = some id at found
    cases held' : TextStore.text? cache.store (cache.entryKey signature) with
    | none => simp [held'] at found
    | some text =>
      obtain ⟨other, rfl, good⟩ := held.fit signature text held'
      rw [held', Option.bind_some, TagId.text, Number.readInt64?_writeInt64] at found
      cases found
      exact good
  entry?_of_lookup := of_lookup_ok

end SharedCache

end TagQuery
