import TagQuery.Proofs.IdCache.Refusals
import TagQuery.Proofs.OrderedMap.Written

/-! Caches that merge what they are given: entries that do not contradict each other may be loaded
and recorded in any order, in any batches and any number of times. -/

namespace TagQuery

/-- The entry of a function is found as the function gives it, whichever was written last. -/
theorem lastWritten_of_fits {id : Signature → TagId} {entries : List (Signature × TagId)}
    (fits : ∀ entry ∈ entries, entry.2 = id entry.1) (signature : Signature) :
    lastWritten entries signature =
      if signature ∈ entries.map Prod.fst then some (id signature) else none := by
  by_cases written : signature ∈ entries.map Prod.fst
  · rw [if_pos written]
    cases found : lastWritten entries signature with
    | none => exact absurd written (lastWritten_eq_none_iff.mp found)
    | some value =>
      have member : (signature, value) ∈ entries.reverse :=
        @OrderedMap.mem_of_get? _ _ _ ⟨_⟩ _ _ found
      exact congrArg some (fits _ (List.mem_reverse.mp member))
  · rw [if_neg written]
    exact lastWritten_eq_none_iff.mpr written

/-- Entries that are written later are found first. -/
theorem lastWritten_append (entries more : List (Signature × TagId)) (signature : Signature) :
    lastWritten (entries ++ more) signature =
      (lastWritten more signature).or (lastWritten entries signature) := by
  rw [lastWritten, List.reverse_append, List.lookup_append]
  rfl

/-- A cache that calls change by the entries they offer, and otherwise by making it ready. -/
class MergingCache (σ : Type) [IdCache σ] where
  ready : σ → Bool
  size : σ → Nat
  /-- The cache with entries written over its own. -/
  merged : σ → Bool → List (Signature × TagId) → σ
  merged_nil (cache : σ) : merged cache (ready cache) [] = cache
  load_merged (cache : σ) (loaded : Bool) (entries more : List (Signature × TagId)) :
    ((IdCache.load more).runFrom (merged cache loaded entries)).2 =
      merged cache true (entries ++ more)
  record_merged (cache : σ) (loaded : Bool) (entries : List (Signature × TagId))
    (signature : Signature) (id : TagId) :
    ((IdCache.record signature id).runFrom (merged cache loaded entries)).2 =
      merged cache loaded (entries ++ [(signature, id)])
  keepsOnLookUp : IdCache.KeepsOnLookUp σ
  /-- Of the entries written, an answer shows the last for each signature. -/
  answer_congr (cache : σ) (loaded : Bool) {entries entries' : List (Signature × TagId)}
    (call : CacheCall) : lastWritten entries = lastWritten entries' →
      (call.perform (merged cache loaded entries)).1 =
        (call.perform (merged cache loaded entries')).1
  found_merged (cache : σ) {entries : List (Signature × TagId)} {signature : Signature}
    {id : TagId} : lastWritten entries signature = some id →
      ((CacheCall.lookup signature).perform (merged cache true entries)).1 = .ok (.found id)
  size_congr (cache : σ) (loaded : Bool) {entries entries' : List (Signature × TagId)} :
    (∀ signature, signature ∈ entries.map Prod.fst ↔ signature ∈ entries'.map Prod.fst) →
      size (merged cache loaded entries) = size (merged cache loaded entries')

namespace ResidentCache

private theorem get?_merged (cache : ResidentCache) (entries : List (Signature × TagId))
    (signature : Signature) : (cache.entries.insertMany entries).get? signature =
      (lastWritten entries signature).or (cache.entries.get? signature) :=
  OrderedMap.get?_insertMany cache.entries entries signature

instance : MergingCache ResidentCache where
  ready := ready
  size cache := cache.entries.size
  merged cache loaded entries := ⟨cache.entries.insertMany entries, loaded⟩
  merged_nil _ := rfl
  load_merged cache _ entries more :=
    congrArg (ResidentCache.mk · true) (cache.entries.insertMany_append entries more).symm
  record_merged cache loaded entries signature id :=
    congrArg (ResidentCache.mk · loaded)
      (cache.entries.insertMany_append entries [(signature, id)]).symm
  keepsOnLookUp := keepsOnLookUp
  answer_congr cache loaded entries entries' call same := by
    have alike : (cache.entries.insertMany entries).get? =
        (cache.entries.insertMany entries').get? := by
      funext signature
      rw [get?_merged, get?_merged, same]
    cases call with
    | lookup signature =>
      rw [CacheCall.perform, CacheCall.perform.replying, runFrom_lookup, alike, CacheCall.perform,
        CacheCall.perform.replying, runFrom_lookup]
    | lookupMany signatures =>
      rw [CacheCall.perform, CacheCall.perform.replying, runFrom_lookupMany, known, alike,
        CacheCall.perform, CacheCall.perform.replying, runFrom_lookupMany, known]
    | load more => rfl
    | record signature id => rfl
  found_merged cache entries signature id found := by
    rw [CacheCall.perform, CacheCall.perform.replying, runFrom_lookup, get?_merged, found]
    rfl
  size_congr cache _ _ _ same := cache.entries.size_insertMany_congr same

end ResidentCache

namespace SharedCache

/-- The store of the cache with entries written to it, ready or not. -/
def merged (cache : SharedCache LocalStore) (loaded : Bool) (entries : List (Signature × TagId)) :
    SharedCache LocalStore where
  store := ⟨cache.store.entries.insertMany (cache.written entries)⟩
  keyStart := cache.keyStart
  ready := loaded

variable (cache : SharedCache LocalStore)

/-- The text for a signature once entries were written. -/
private def textAfter (entries : List (Signature × TagId)) (signature : Signature) :
    Option String :=
  ((lastWritten entries signature).map TagId.text).or
    (cache.store.entries.get? (cache.entryKey signature))

private theorem get?_merged (loaded : Bool) (entries : List (Signature × TagId))
    (signature : Signature) :
    (cache.merged loaded entries).store.entries.get? (cache.entryKey signature) =
      cache.textAfter entries signature := by
  change (cache.store.entries.insertMany (cache.written entries)).get? _ = _
  rw [OrderedMap.get?_insertMany, written, ← List.map_reverse]
  exact congrArg (Option.or · _) (cache.lookup_written entries.reverse signature)

private theorem insertMany_merged (entries more : List (Signature × TagId)) :
    (cache.store.entries.insertMany (cache.written entries)).insertMany (cache.written more) =
      cache.store.entries.insertMany (cache.written (entries ++ more)) := by
  rw [written, written, written, List.map_append, OrderedMap.insertMany_append]

private theorem lookup_merged (loaded : Bool) (entries : List (Signature × TagId))
    (signature : Signature) :
    ((IdCache.lookup signature).runFrom (cache.merged loaded entries)).1 =
      if loaded then (cache.textAfter entries signature).elim (.error (.notFound signature))
        (readId (cache.entryKey signature))
      else .error .notReady := by
  rw [← get?_merged cache loaded]
  exact congrArg Prod.fst (runFrom_lookup (cache.merged loaded entries) signature)

private theorem lookupMany_merged (loaded : Bool) (entries : List (Signature × TagId))
    (signatures : List Signature) :
    ((IdCache.lookupMany signatures).runFrom (cache.merged loaded entries)).1 =
      if loaded then
        (cache.resolveAnswers (signatures.zip (signatures.map (cache.textAfter entries)))).map .ofList
      else .error .notReady := by
  rw [← funext (get?_merged cache loaded entries),
    resolveAnswers_congr (show cache.keyStart = (cache.merged loaded entries).keyStart from rfl)]
  exact congrArg Prod.fst (runFrom_lookupMany (cache.merged loaded entries) signatures)

instance : MergingCache (SharedCache LocalStore) where
  ready := ready
  size cache := cache.store.entries.size
  merged := merged
  merged_nil _ := rfl
  load_merged cache _ entries more := by
    refine (congrArg Prod.snd (runFrom_load _ more)).trans ?_
    exact congrArg (fun map => SharedCache.mk (LocalStore.mk map) cache.keyStart true)
      (cache.insertMany_merged entries more)
  record_merged cache loaded entries signature id :=
    congrArg (fun map => SharedCache.mk (LocalStore.mk map) cache.keyStart loaded)
      (cache.insertMany_merged entries [(signature, id)])
  keepsOnLookUp := keepsOnLookUp
  answer_congr cache loaded entries entries' call same := by
    have alike : cache.textAfter entries = cache.textAfter entries' := by
      funext signature
      rw [textAfter, textAfter, same]
    cases call with
    | lookup signature =>
      refine congrArg (Except.map CacheReply.found) ?_
      rw [lookup_merged, lookup_merged, alike]
    | lookupMany signatures =>
      refine congrArg (Except.map CacheReply.resolved) ?_
      rw [lookupMany_merged, lookupMany_merged, alike]
    | load more =>
      have taken (entries : List (Signature × TagId)) :=
        congrArg Prod.fst (runFrom_load (cache.merged loaded entries) more)
      exact congrArg (Except.map _) ((taken entries).trans (taken entries').symm)
    | record signature id => rfl
  found_merged cache entries signature id found := by
    refine (congrArg (Except.map CacheReply.found) (cache.lookup_merged true entries signature)).trans ?_
    rw [if_pos rfl, textAfter, found, Option.map_some, Option.some_or, Option.elim_some, readId_text]
    rfl
  size_congr cache _ entries entries' same := by
    have keys (entries : List (Signature × TagId)) :
        (cache.written entries).map Prod.fst = (entries.map Prod.fst).map cache.entryKey := by
      rw [written, List.map_map, List.map_map]
      rfl
    refine cache.store.entries.size_insertMany_congr fun key => ?_
    simp only [keys, List.mem_map (f := cache.entryKey), same]

end SharedCache

namespace CacheCall

/-- The signatures that calls write, each as often as it is written. -/
def signaturesWritten (calls : List CacheCall) : List Signature :=
  (calls.flatMap writes).map Prod.fst

/-- Calls that load a cache at least once, and write every signature with the identifier that a
function gives it. -/
structure Warms (id : Signature → TagId) (calls : List CacheCall) : Prop where
  loads : ∃ call ∈ calls, call.isLoad
  fits : ∀ entry ∈ calls.flatMap writes, entry.2 = id entry.1

/-- Two sequences of calls leave a cache alike: equally many entries, the same answers and sizes
during whatever is called later, and an identifier for every signature that was written. -/
structure LeaveAlike {σ : Type} [IdCache σ] (size : σ → Nat) (id : Signature → TagId) (cache : σ)
    (calls calls' : List CacheCall) : Prop where
  sizes : size (performAll cache calls).2 = size (performAll cache calls').2
  transcripts (later : List CacheCall) : transcript size (performAll cache calls).2 later =
    transcript size (performAll cache calls').2 later
  found {signature : Signature} : signature ∈ signaturesWritten calls →
    ((lookup signature).perform (performAll cache calls).2).1 = .ok (.found (id signature))

section Merging

open MergingCache

variable {σ : Type} [IdCache σ] [MergingCache σ]

private theorem effect_merged (cache : σ) (loaded : Bool) (entries : List (Signature × TagId))
    (call : CacheCall) : call.effect (merged cache loaded entries) =
      merged cache (loaded || call.isLoad) (entries ++ call.writes) := by
  cases call with
  | load more =>
    rw [isLoad, Bool.or_true]
    exact load_merged cache loaded entries more
  | record signature id =>
    have steady : (CacheCall.record signature id).isLoad = false := rfl
    rw [steady, Bool.or_false]
    exact record_merged cache loaded entries signature id
  | lookup signature =>
    rw [keepsOnLookUp _ _ rfl, isLoad_of_isLookUp rfl, writes_of_isLookUp rfl, Bool.or_false,
      List.append_nil]
  | lookupMany signatures =>
    rw [keepsOnLookUp _ _ rfl, isLoad_of_isLookUp rfl, writes_of_isLookUp rfl, Bool.or_false,
      List.append_nil]

/-- Calls leave a cache with all entries that they offered, in whatever calls these came. -/
theorem performAll_merged (cache : σ) (loaded : Bool) (entries : List (Signature × TagId))
    (calls : List CacheCall) : (performAll (merged cache loaded entries) calls).2 =
      merged cache (loaded || calls.any isLoad) (entries ++ calls.flatMap writes) := by
  induction calls generalizing loaded entries with
  | nil => rw [performAll, List.any_nil, Bool.or_false, List.flatMap_nil, List.append_nil]
  | cons call rest ih =>
    calc (performAll (merged cache loaded entries) (call :: rest)).2
      _ = (performAll (call.effect (merged cache loaded entries)) rest).2 := rfl
      _ = (performAll (merged cache (loaded || call.isLoad) (entries ++ call.writes)) rest).2 := by
        rw [effect_merged]
      _ = merged cache (loaded || call.isLoad || rest.any isLoad)
            (entries ++ call.writes ++ rest.flatMap writes) := ih _ _
      _ = merged cache (loaded || (call :: rest).any isLoad)
            (entries ++ (call :: rest).flatMap writes) := by
        rw [Bool.or_assoc, List.append_assoc, List.any_cons, List.flatMap_cons]

private theorem size_merged_congr (cache : σ) (loaded : Bool)
    {entries entries' : List (Signature × TagId)} (same : lastWritten entries = lastWritten entries') :
    size (merged cache loaded entries) = size (merged cache loaded entries') := by
  refine size_congr cache loaded fun signature => ?_
  rw [← not_iff_not, ← lastWritten_eq_none_iff, ← lastWritten_eq_none_iff, same]

/-- Caches into which the same was written last go on alike. -/
private theorem transcript_merged (cache : σ) (loaded : Bool)
    {entries entries' : List (Signature × TagId)} (same : lastWritten entries = lastWritten entries')
    (later : List CacheCall) : transcript size (merged cache loaded entries) later =
      transcript size (merged cache loaded entries') later := by
  induction later generalizing loaded entries entries' with
  | nil => rfl
  | cons call rest ih =>
    have next (written : List (Signature × TagId)) := effect_merged cache loaded written call
    have same' : lastWritten (entries ++ call.writes) = lastWritten (entries' ++ call.writes) := by
      funext signature
      rw [lastWritten_append, lastWritten_append, same]
    have sizes := size_merged_congr cache (loaded || call.isLoad) same'
    have tails := ih (loaded || call.isLoad) same'
    rw [← next, ← next] at sizes tails
    exact congrArg₂ List.cons (Prod.ext (answer_congr cache loaded call same) sizes) tails

private theorem leaveAlike {id : Signature → TagId} {calls calls' : List CacheCall}
    (warms : Warms id calls) (warms' : Warms id calls')
    (same : ∀ signature, signature ∈ signaturesWritten calls ↔ signature ∈ signaturesWritten calls')
    (cache : σ) : LeaveAlike size id cache calls calls' := by
  have left {calls : List CacheCall} (warms : Warms id calls) :
      (performAll cache calls).2 = merged cache true (calls.flatMap writes) := by
    have ran := performAll_merged cache (ready cache) [] calls
    rw [merged_nil, List.any_eq_true.mpr warms.loads, Bool.or_true, List.nil_append] at ran
    exact ran
  have written : lastWritten (calls.flatMap writes) = lastWritten (calls'.flatMap writes) := by
    funext signature
    rw [lastWritten_of_fits warms.fits, lastWritten_of_fits warms'.fits]
    exact if_congr (same signature) rfl rfl
  refine ⟨?_, ?_, ?_⟩
  · rw [left warms, left warms', size_merged_congr cache true written]
  · intro later
    rw [left warms, left warms', transcript_merged cache true written]
  · intro signature member
    rw [left warms]
    refine found_merged cache ?_
    rw [lastWritten_of_fits warms.fits]
    exact if_pos member

end Merging

/-- Loading a cache and recording new tags commute: whatever the order of the writes, their batches
and their repetitions, what is found later depends on the signatures that were written. So a load
of what a store held earlier loses no tag that was recorded meanwhile. -/
theorem warmUps_commute {id : Signature → TagId} {calls calls' : List CacheCall}
    (warms : Warms id calls) (warms' : Warms id calls')
    (same : ∀ signature, signature ∈ signaturesWritten calls ↔ signature ∈ signaturesWritten calls') :
    (∀ cache : ResidentCache, LeaveAlike (·.entries.size) id cache calls calls') ∧
      ∀ cache : SharedCache LocalStore, LeaveAlike (·.store.entries.size) id cache calls calls' :=
  ⟨leaveAlike warms warms' same, leaveAlike warms warms' same⟩

/-- A tag that was recorded between the reading of the store and the load of what was read. -/
theorem warmUps_commute_stale :
    let id : Signature → TagId := fun signature => if signature = ⟨"jazz"⟩ then ⟨1⟩ else ⟨2⟩
    let stale : List CacheCall := [.record ⟨"live"⟩ ⟨2⟩, .load [(⟨"jazz"⟩, ⟨1⟩)], .load []]
    let fresh : List CacheCall :=
      [.load [(⟨"jazz"⟩, ⟨1⟩), (⟨"live"⟩, ⟨2⟩)], .record ⟨"jazz"⟩ ⟨1⟩, .record ⟨"live"⟩ ⟨2⟩]
    Warms id stale ∧ Warms id fresh ∧
      (∀ signature, signature ∈ signaturesWritten stale ↔ signature ∈ signaturesWritten fresh) ∧
      LeaveAlike (·.entries.size) id ({} : ResidentCache) stale fresh ∧
      LeaveAlike (·.store.entries.size) id
        ({ store := ⟨⟨[("tag:rock", "no number")]⟩⟩, keyStart := "tag:" } : SharedCache LocalStore)
        stale fresh := by
  intro id stale fresh
  have warms : Warms id stale := ⟨⟨_, List.mem_of_getElem? (i := 1) rfl, rfl⟩, by decide⟩
  have warms' : Warms id fresh := ⟨⟨_, List.mem_of_getElem? (i := 0) rfl, rfl⟩, by decide⟩
  have same (signature : Signature) :
      signature ∈ signaturesWritten stale ↔ signature ∈ signaturesWritten fresh := by
    simp [stale, fresh, signaturesWritten, writes, or_comm, or_left_comm]
  exact ⟨warms, warms', same, (warmUps_commute warms warms' same).1 _,
    (warmUps_commute warms warms' same).2 _⟩

end CacheCall

end TagQuery
