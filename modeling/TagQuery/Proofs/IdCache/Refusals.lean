import TagQuery.Proofs.IdCache.Observed
import TagQuery.Proofs.KeyValueStore.Fickle

/-! What a cache remembers in a store that may refuse any operation at any time. -/

namespace TagQuery

namespace CacheCall

/-- The entries that a call offers. -/
def writes : CacheCall → List (Signature × TagId)
  | load entries => entries
  | record signature id => [(signature, id)]
  | lookup _ | lookupMany _ => []

def isLoad : CacheCall → Bool
  | load _ => true
  | _ => false

theorem writes_of_isLookUp {call : CacheCall} (asks : call.isLookUp) : call.writes = [] := by
  cases call <;> cases asks <;> rfl

theorem isLoad_of_isLookUp {call : CacheCall} (asks : call.isLookUp) : call.isLoad = false := by
  cases call <;> cases asks <;> rfl

/-- The answer of a cache to which nothing is refused. -/
def answerFrom (ready : Bool) (known : Signature → Option TagId) :
    CacheCall → Except CacheFault CacheReply
  | load _ | record _ _ => .ok .done
  | lookup signature =>
    if ready then
      match known signature with
      | some id => .ok (.found id)
      | none => .error (.notFound signature)
    else .error .notReady
  | lookupMany signatures =>
    if ready then
      .ok (.resolved (.ofList (signatures.filterMap fun signature =>
        (known signature).map fun id => (signature, id))))
    else .error .notReady

/-- The answers to calls one after another, and the cache after them. -/
def performAll {σ : Type} [IdCache σ] (cache : σ) :
    List CacheCall → List (Except CacheFault CacheReply) × σ
  | [] => ([], cache)
  | call :: rest =>
    let (answer, after) := call.perform cache
    let (answers, last) := performAll after rest
    (answer :: answers, last)

/-- Entries that were taken during calls: everything that a call offered which succeeded, and
what comes first of that when the call failed. -/
inductive Taken :
    List CacheCall → List (Except CacheFault CacheReply) → List (Signature × TagId) → Prop
  | nil : Taken [] [] []
  | cons {call : CacheCall} {answer : Except CacheFault CacheReply} {calls : List CacheCall}
    {answers : List (Except CacheFault CacheReply)} {entries later : List (Signature × TagId)} :
    entries <+: call.writes → (∀ reply, answer = .ok reply → entries = call.writes) →
      Taken calls answers later → Taken (call :: calls) (answer :: answers) (entries ++ later)

end CacheCall

namespace SharedCache

variable {cache : SharedCache FickleStore} {entries taken : List (Signature × TagId)}
  {call : CacheCall} {refusal : Option StoreRefusal} {store : FickleStore}

/-- The store has accepted entries, and nothing else is in it. -/
structure Holds (cache : SharedCache FickleStore) (entries : List (Signature × TagId)) : Prop where
  kept : cache.store.Kept
  writes : cache.store.writes = cache.written entries

/-- The text under a signature's key is that of the identifier written last for it. -/
theorem Holds.get? (holds : cache.Holds entries) (signature : Signature) :
    cache.store.store.entries.get? (cache.entryKey signature) =
      (lastWritten entries signature).map TagId.text := by
  rw [holds.kept.get?, holds.writes, written, ← List.map_reverse]
  exact cache.lookup_written entries.reverse signature

/-- A call of a cache whose store holds entries: what the store took of those that the call
offered, what it refused, and the answer and the cache that come of it. -/
structure Performs (cache : SharedCache FickleStore) (entries : List (Signature × TagId))
    (call : CacheCall) (taken : List (Signature × TagId)) (refusal : Option StoreRefusal)
    (store : FickleStore) : Prop where
  extended : cache.store.Extends (cache.written taken) refusal store
  offered : taken <+: call.writes
  unrefused : refusal = none → taken = call.writes
  performed : call.perform cache =
    (refusal.elim (call.answerFrom cache.ready (lastWritten entries))
        fun refusal => .error (.ofRefusal refusal),
      { cache with store, ready := cache.ready || (call.isLoad && refusal.isNone) })

/-- What a beginning of the written entries is written from. -/
private theorem of_prefix_written (entries : List (Signature × TagId)) {accepted : List (String × String)}
    (before : accepted <+: cache.written entries) :
    ∃ taken, taken <+: entries ∧ accepted = cache.written taken := by
  refine ⟨entries.take accepted.length, entries.take_prefix _, ?_⟩
  rw [written, List.map_take]
  exact List.prefix_iff_eq_take.mp before

private theorem performs_load (offered : List (Signature × TagId)) :
    ∃ taken refusal store, cache.Performs entries (.load offered) taken refusal store := by
  have ran := runFrom_load_store cache offered
  have takes : cache.store.Takes (cache.written offered) (if offered = [] then (.ok (), cache.store)
      else (KeyValueStore.setMany (cache.written offered)).runFrom cache.store) := by
    split
    · next empty =>
      rw [empty]
      exact .all (.refl cache.store)
    · exact cache.store.takes_setMany _
  generalize (if offered = [] then (.ok (), cache.store)
    else (KeyValueStore.setMany (cache.written offered)).runFrom cache.store) = stored at takes ran
  cases takes with
  | @all store extended =>
    have readied : (cache.ready ||
        ((CacheCall.load offered).isLoad && (none : Option StoreRefusal).isNone)) = true :=
      Bool.or_true cache.ready
    refine ⟨offered, none, store, extended, List.prefix_rfl, fun _ => rfl, ?_⟩
    rw [readied, CacheCall.perform, CacheCall.perform.replying, ran]
    rfl
  | @part accepted refusal store before extended =>
    obtain ⟨taken, first, rfl⟩ := of_prefix_written offered before
    have steady : (cache.ready || ((CacheCall.load offered).isLoad && (some refusal).isNone)) =
      cache.ready := Bool.or_false cache.ready
    refine ⟨taken, some refusal, store, extended, first,
      fun unrefused => absurd unrefused (Option.some_ne_none refusal), ?_⟩
    rw [steady, CacheCall.perform, CacheCall.perform.replying, ran]
    rfl

private theorem performs_record (signature : Signature) (id : TagId) :
    ∃ taken refusal store, cache.Performs entries (.record signature id) taken refusal store := by
  have ran := runFrom_record_store cache signature id
  have takes := cache.store.takes_set (cache.entryKey signature) id.text
  generalize (KeyValueStore.set (cache.entryKey signature) id.text).runFrom cache.store = stored
    at takes ran
  have steady (refused : Bool) :
      (cache.ready || ((CacheCall.record signature id).isLoad && refused)) = cache.ready :=
    Bool.or_false cache.ready
  cases takes with
  | @all store extended =>
    refine ⟨[(signature, id)], none, store, extended, List.prefix_rfl, fun _ => rfl, ?_⟩
    rw [steady, CacheCall.perform, CacheCall.perform.replying, ran]
    rfl
  | @part accepted refusal store before extended =>
    obtain ⟨taken, first, rfl⟩ := of_prefix_written [(signature, id)] before
    refine ⟨taken, some refusal, store, extended, first,
      fun unrefused => absurd unrefused (Option.some_ne_none refusal), ?_⟩
    rw [steady, CacheCall.perform, CacheCall.perform.replying, ran]
    rfl

/-- A look-up offers nothing, so that the readiness stays as it was. -/
private theorem Performs.of_isLookUp (asks : call.isLookUp)
    (extended : cache.store.Extends [] refusal store)
    (ran : call.perform cache =
      (refusal.elim (call.answerFrom cache.ready (lastWritten entries))
        fun refusal => .error (.ofRefusal refusal), { cache with store })) :
    cache.Performs entries call [] refusal store := by
  refine ⟨extended, List.nil_prefix, fun _ => (CacheCall.writes_of_isLookUp asks).symm, ?_⟩
  rw [ran, CacheCall.isLoad_of_isLookUp asks, Bool.false_and, Bool.or_false]

/-- A look-up before the cache is ready does not reach the store. -/
theorem perform_of_not_ready {σ : Type} [KeyValueStore σ] {cache : SharedCache σ} {call : CacheCall}
    (asks : call.isLookUp) (unready : cache.ready = false) :
    call.perform cache = (.error .notReady, cache) := by
  cases call with
  | lookup signature =>
    rw [CacheCall.perform, CacheCall.perform.replying, runFrom_lookup_store, unready]
    rfl
  | lookupMany signatures =>
    rw [CacheCall.perform, CacheCall.perform.replying, runFrom_lookupMany_store, unready]
    rfl
  | load entries => cases asks
  | record signature id => cases asks

private theorem performs_of_not_ready (asks : call.isLookUp) (unready : cache.ready = false) :
    cache.Performs entries call [] none cache.store := by
  have unready' : call.answerFrom cache.ready (lastWritten entries) = .error .notReady := by
    rw [unready]
    cases call with
    | lookup signature => rfl
    | lookupMany signatures => rfl
    | load entries => cases asks
    | record signature id => cases asks
  refine .of_isLookUp asks (.refl _) ?_
  rw [perform_of_not_ready asks unready, Option.elim_none, unready']

private theorem performs_lookup (holds : cache.Holds entries) (ready : cache.ready = true)
    (signature : Signature) :
    ∃ refusal store, cache.Performs entries (.lookup signature) [] refusal store := by
  have ran := runFrom_lookup_store cache signature
  have answers := cache.store.answers_get (cache.entryKey signature)
  rw [holds.get?] at answers
  rw [if_pos ready] at ran
  generalize (KeyValueStore.get (cache.entryKey signature)).runFrom cache.store = stored
    at answers ran
  cases answers with
  | @answered store extended _ =>
    refine ⟨none, store, .of_isLookUp rfl extended ?_⟩
    rw [CacheCall.perform, CacheCall.perform.replying, ran, CacheCall.answerFrom, if_pos ready]
    cases lastWritten entries signature with
    | none => rfl
    | some id =>
      dsimp only [Option.map_some]
      rw [readId_text]
      rfl
  | @refused refusal store extended =>
    refine ⟨some refusal, store, .of_isLookUp rfl extended ?_⟩
    rw [CacheCall.perform, CacheCall.perform.replying, ran]
    rfl

private theorem performs_lookupMany (holds : cache.Holds entries) (ready : cache.ready = true)
    (signatures : List Signature) :
    ∃ refusal store, cache.Performs entries (.lookupMany signatures) [] refusal store := by
  have ran := runFrom_lookupMany_store cache signatures
  rw [if_pos ready] at ran
  by_cases empty : signatures = []
  · subst empty
    refine ⟨none, cache.store, .of_isLookUp rfl (.refl _) ?_⟩
    rw [CacheCall.perform, CacheCall.perform.replying, ran, CacheCall.answerFrom, if_pos ready]
    rfl
  · have answers := cache.store.answers_getMany (signatures.map cache.entryKey)
    have texts : (signatures.map cache.entryKey).map cache.store.store.entries.get? =
        signatures.map fun signature => (lastWritten entries signature).map TagId.text := by
      rw [List.map_map]
      exact List.map_congr_left fun signature _ => holds.get? signature
    rw [texts] at answers
    rw [if_neg empty] at ran
    generalize (KeyValueStore.getMany (signatures.map cache.entryKey)).runFrom cache.store = stored
      at answers ran
    cases answers with
    | @answered store extended _ =>
      refine ⟨none, store, .of_isLookUp rfl extended ?_⟩
      dsimp only at ran
      rw [if_pos (List.length_map _), resolveAnswers_texts] at ran
      rw [CacheCall.perform, CacheCall.perform.replying, ran, CacheCall.answerFrom, if_pos ready]
      rfl
    | @refused refusal store extended =>
      refine ⟨some refusal, store, .of_isLookUp rfl extended ?_⟩
      rw [CacheCall.perform, CacheCall.perform.replying, ran]
      rfl

/-- Any call of a cache whose store holds entries is answered from them, unless the store refuses
an operation. -/
theorem performs (holds : cache.Holds entries) (call : CacheCall) :
    ∃ taken refusal store, cache.Performs entries call taken refusal store := by
  cases call with
  | load offered => exact performs_load offered
  | record signature id => exact performs_record signature id
  | lookup signature =>
    cases ready : cache.ready with
    | true => exact ⟨[], performs_lookup holds ready signature⟩
    | false => exact ⟨[], none, cache.store, performs_of_not_ready rfl ready⟩
  | lookupMany signatures =>
    cases ready : cache.ready with
    | true => exact ⟨[], performs_lookupMany holds ready signatures⟩
    | false => exact ⟨[], none, cache.store, performs_of_not_ready rfl ready⟩

namespace Performs

variable (ran : cache.Performs entries call taken refusal store)

include ran

/-- A store holds what it took before and what it took during a call. -/
theorem holds (held : cache.Holds entries) : (call.effect cache).Holds (entries ++ taken) := by
  rw [CacheCall.effect, ran.performed]
  refine ⟨ran.extended.kept held.kept, ?_⟩
  rw [ran.extended.writes_eq, held.writes]
  exact List.map_append.symm

/-- A call that succeeded was refused nothing. -/
theorem taken_of_ok {reply : CacheReply} (answered : (call.perform cache).1 = .ok reply) :
    taken = call.writes := by
  rw [ran.performed] at answered
  cases refusal with
  | none => exact ran.unrefused rfl
  | some refusal => cases answered

theorem refuses_eq : (call.effect cache).store.refuses = cache.store.refuses := by
  rw [CacheCall.effect, ran.performed]
  exact ran.extended.refuses_eq

/-- Only loads that succeed make a cache ready, and nothing makes it unready. -/
theorem ready_iff : (call.effect cache).ready = true ↔ cache.ready = true ∨
    ∃ offered, (CacheCall.load offered, .ok .done) = (call, (call.perform cache).1) := by
  rw [CacheCall.effect, ran.performed, Bool.or_eq_true]
  refine or_congr_right ?_
  cases call with
  | load offered => cases refusal <;> simp [CacheCall.isLoad, CacheCall.answerFrom]
  | record signature id => simp [CacheCall.isLoad]
  | lookup signature => simp [CacheCall.isLoad]
  | lookupMany signatures => simp [CacheCall.isLoad]

end Performs

/-- What calls leave of a cache whose store held entries. -/
theorem performAll_holds (holds : cache.Holds entries) (calls : List CacheCall) :
    let ran := CacheCall.performAll cache calls
    (∃ taken, CacheCall.Taken calls ran.1 taken ∧ ran.2.Holds (entries ++ taken)) ∧
      ran.2.store.refuses = cache.store.refuses ∧
      (ran.2.ready = true ↔ cache.ready = true ∨
        ∃ offered, (CacheCall.load offered, .ok .done) ∈ calls.zip ran.1) := by
  induction calls generalizing cache entries with
  | nil =>
    refine ⟨⟨[], .nil, ?_⟩, rfl, ?_⟩
    · rw [List.append_nil]
      exact holds
    · simp [CacheCall.performAll]
  | cons call rest ih =>
    obtain ⟨taken, refusal, store, ran⟩ := performs holds call
    obtain ⟨⟨later, takes, held⟩, refuses, readied⟩ := ih (ran.holds holds)
    refine ⟨⟨taken ++ later, .cons ran.offered (fun _ => ran.taken_of_ok) takes, ?_⟩,
      refuses.trans ran.refuses_eq, ?_⟩
    · rw [← List.append_assoc]
      exact held
    · refine readied.trans ?_
      rw [ran.ready_iff, or_assoc, ← exists_or]
      simp only [← List.mem_cons]
      rfl

/-- What a cache is ready for and what it remembers after calls, when the store refused some
operations and has taken entries during them. -/
structure Remembers (refuses : Nat → Option StoreRefusal) (calls : List CacheCall)
    (answers : List (Except CacheFault CacheReply)) (cache : SharedCache FickleStore)
    (entries : List (Signature × TagId)) : Prop where
  ready_iff : cache.ready = true ↔
    ∃ offered, (CacheCall.load offered, .ok .done) ∈ calls.zip answers
  stays_ready : cache.ready = true → ∀ more, (CacheCall.performAll cache more).2.ready = true
  not_ready : cache.ready = false → ∀ call : CacheCall, call.isLookUp →
    call.perform cache = (.error .notReady, cache)
  taken : CacheCall.Taken calls answers entries
  holds : cache.Holds entries
  refuses_eq : cache.store.refuses = refuses
  performs (call : CacheCall) : ∃ taken refusal store, cache.Performs entries call taken refusal store
  notFound_iff {signature : Signature} {store : FickleStore} : cache.ready = true →
    cache.Performs entries (.lookup signature) [] none store →
      (((CacheCall.lookup signature).perform cache).1 = .error (.notFound signature) ↔
        signature ∉ entries.map Prod.fst)

/-- A cache in a new store, which may refuse any operation at any time, is ready once a load
succeeded. From then on look-ups that are not refused find what the store took last, also of
what was loaded in vain or recorded before. -/
theorem remembers (refuses : Nat → Option StoreRefusal) (keyStart : String)
    (calls : List CacheCall) :
    let ran := CacheCall.performAll (ofSettings ({ refuses } : FickleStore) ⟨keyStart⟩) calls
    ∃ entries, Remembers refuses calls ran.1 ran.2 entries := by
  have new : (ofSettings ({ refuses } : FickleStore) ⟨keyStart⟩).Holds [] := ⟨⟨rfl, rfl⟩, rfl⟩
  obtain ⟨⟨entries, taken, holds⟩, refuses_eq, ready⟩ := performAll_holds new calls
  refine ⟨entries, ?_, ?_, ?_, taken, holds, refuses_eq, performs holds, ?_⟩
  · rw [ready]
    exact or_iff_right Bool.false_ne_true
  · intro loaded more
    exact (performAll_holds holds more).2.2.mpr (.inl loaded)
  · intro unready call asks
    exact perform_of_not_ready asks unready
  · intro signature store loaded answered
    rw [answered.performed, Option.elim_none, CacheCall.answerFrom, if_pos loaded,
      ← lastWritten_eq_none_iff]
    cases lastWritten entries signature with
    | none => exact iff_of_true rfl rfl
    | some id => exact iff_of_false nofun nofun

/-- A load that is cut short leaves what it had written, and the next one makes it known. -/
example :
    let refuses : Nat → Option StoreRefusal := fun before =>
      if before = 1 then some ⟨"down"⟩ else none
    (CacheCall.performAll (ofSettings ({ refuses } : FickleStore) ⟨"tag:"⟩)
      [.load [(⟨"jazz"⟩, ⟨1⟩), (⟨"live"⟩, ⟨2⟩)], .load [], .lookup ⟨"jazz"⟩, .lookup ⟨"live"⟩]).1 =
      [.error (.unavailable "down"), .ok .done, .ok (.found ⟨1⟩), .error (.notFound ⟨"live"⟩)] :=
  rfl

end SharedCache

end TagQuery
