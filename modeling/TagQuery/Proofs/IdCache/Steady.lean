import TagQuery.Proofs.IdCache.Reliable

/-! Caches that answer for a batch of one signature as they answer for the signature. -/

namespace TagQuery

/-- A cache that look-ups leave as it is, and that gives the same identifier whether a signature
is asked for by itself or in a batch. -/
class SteadyCache (σ : Type) [IdCache σ] : Prop where
  kept (cache : σ) (signature : Signature) : ((IdCache.lookup signature).runFrom cache).2 = cache
  lookupMany_of_lookup {cache : σ} {signature : Signature} {id : TagId} :
    (IdCache.lookup signature).runFrom cache = (.ok id, cache) →
      (IdCache.lookupMany [signature]).runFrom cache = (.ok (.ofList [(signature, id)]), cache)

instance : SteadyCache ResidentCache where
  kept cache signature := congrArg Prod.snd (ResidentCache.runFrom_lookup cache signature)
  lookupMany_of_lookup {cache signature id} found := by
    rw [ResidentCache.runFrom_lookup] at found
    rw [ResidentCache.runFrom_lookupMany]
    by_cases ready : cache.ready
    · rw [if_pos ready] at found ⊢
      cases held : cache.entries.get? signature with
      | none =>
        rw [held] at found
        cases found
      | some other =>
        rw [held] at found
        cases found
        simp [ResidentCache.known, held]
    · rw [if_neg ready] at found
      cases found

instance {σ : Type} [KeyValueStore σ] [SteadyStore σ] : SteadyCache (SharedCache σ) where
  kept cache signature := congrArg Prod.snd (SharedCache.runFrom_lookup_steady cache signature)
  lookupMany_of_lookup {cache signature id} found := by
    rw [SharedCache.runFrom_lookup_steady] at found
    rw [SharedCache.runFrom_lookupMany_steady]
    by_cases ready : cache.ready
    · rw [if_pos ready] at found ⊢
      rw [List.map_singleton, List.zip_cons_cons, List.zip_nil_left]
      cases held : TextStore.text? cache.store (cache.entryKey signature) with
      | none =>
        rw [held] at found
        cases found
      | some text =>
        rw [held, Prod.mk.injEq] at found
        have read : SharedCache.readId (cache.entryKey signature) text = .ok id := found.1
        rw [SharedCache.resolveAnswers, read]
        rfl
    · rw [if_neg ready] at found
      cases found

end TagQuery
