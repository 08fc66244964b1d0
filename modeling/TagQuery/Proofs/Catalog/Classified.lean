import Mathlib.Data.List.Induction
import TagQuery.Executor.AnswerQueue
import TagQuery.Proofs.Catalog.Tracks
import TagQuery.Proofs.IdCache.Observed

/-! What a catalog makes of the faults of its cache, and that a rejected request leaves the
cache and the store alone. -/

namespace TagQuery

/-- A request that was refused for what it asks, or a removal of a tag that was looked up in
vain. An attachment is not among these: it may have stored its tag before it is refused. -/
def Request.Rejected {σ : Type} [IdCache σ] (asked : List (σ × CacheCall)) :
    (request : Request) → Except Failure request.Answer → Prop
  | .command (.createTags _), .error failure => failure.kind = .invalidQuery
  | .command (.addTag _ _), .error failure => failure.kind = .invalidQuery
  | .command (.removeTag _ _), .error failure => failure.kind = .invalidQuery
  | .command (.removeTag _ _), .ok _ =>
    ∃ entry ∈ asked, ∃ name, CacheCall.FailsWith entry (.notFound name)
  | .listEntities _ _ _, .error failure => failure.kind = .invalidQuery
  | _, _ => False

namespace Catalog

variable {σ ξ α : Type} [IdCache σ]

/-- What a part of a request asks of the cache, and that a fault of the cache ends it. -/
structure Consults (before : Catalog (ObservedCache σ) ξ) (asked : List (σ × CacheCall))
    (result : Except Failure Unit) (after : Catalog (ObservedCache σ) ξ) : Prop where
  history_eq : after.cache.history = before.cache.history ++ asked
  cache_eq : after.cache.cache =
    asked.foldl (fun cache entry => entry.2.effect cache) before.cache.cache
  unavailable : ∀ entry ∈ asked, ∀ fault, CacheCall.FailsWith entry fault →
    fault.isNotFound = false → ∃ failure, result = .error failure ∧ failure.kind = .unavailable

namespace Consults

variable {before middle after : Catalog (ObservedCache σ) ξ} {asked asked' : List (σ × CacheCall)}
  {result : Except Failure Unit}

theorem nothing (same : after.cache = before.cache) : Consults before [] result after where
  history_eq := by rw [same, List.append_nil]
  cache_eq := by rw [same, List.foldl_nil]
  unavailable := by simp

/-- A part that makes one call of the cache, and ends by a fault of it. -/
theorem called {call : CacheCall} {action : Action CacheFault σ α} {reply : α → CacheReply}
    {answer : Except CacheFault α} {cache : ObservedCache σ}
    (performs : call.perform before.cache.cache =
      ((action.runFrom before.cache.cache).1.map reply, (action.runFrom before.cache.cache).2))
    (ran : (ObservedCache.making call action).runFrom before.cache = (answer, cache))
    (same : after.cache = cache)
    (ends : ∀ fault, answer = .error fault → fault.isNotFound = false →
      result = .error (.ofCache fault)) :
    Consults before [(before.cache.cache, call)] result after := by
  obtain ⟨rfl, fails⟩ := ObservedCache.of_making performs ran
  refine ⟨?_, ?_, ?_⟩
  · rw [same, ObservedCache.after]
  · rw [same, ObservedCache.after, List.foldl_cons, List.foldl_nil]
  · intro entry member fault failed other
    obtain rfl := List.mem_singleton.mp member
    refine ⟨_, ends fault ((fails fault).mp failed) other, ?_⟩
    rw [Failure.kind_ofCache, other]
    rfl

/-- Two parts of a request, the second after the first went well. -/
theorem append (first : Consults before asked (.ok ()) middle)
    (second : Consults middle asked' result after) :
    Consults before (asked ++ asked') result after where
  history_eq := by rw [second.history_eq, first.history_eq, List.append_assoc]
  cache_eq := by rw [second.cache_eq, first.cache_eq, List.foldl_append]
  unavailable entry member fault failed other := by
    rcases List.mem_append.mp member with earlier | later
    · obtain ⟨_, impossible, _⟩ := first.unavailable entry earlier fault failed other
      cases impossible
    · exact second.unavailable entry later fault failed other

/-- However a request ends after its cache was asked in vain of nothing. -/
theorem ending (first : Consults before asked (.ok ()) middle)
    (same : after.cache = middle.cache) : Consults before asked result after := by
  simpa using first.append (nothing same)

/-- Look-ups leave a cache as it is when each of them does. -/
theorem cache_eq_of_lookUps (keeps : IdCache.KeepsOnLookUp σ)
    (consulted : Consults before asked result after)
    (lookUps : ∀ entry ∈ asked, entry.2.isLookUp) : after.cache.cache = before.cache.cache := by
  rw [consulted.cache_eq]
  generalize before.cache.cache = cache
  clear consulted
  induction asked with
  | nil => rfl
  | cons entry rest ih =>
    have asks := lookUps entry List.mem_cons_self
    rw [List.foldl_cons, keeps cache entry.2 asks]
    exact ih fun later member => lookUps later (List.mem_cons_of_mem _ member)

end Consults

section Executing

omit [IdCache σ]

variable [Executor ξ] {catalog : Catalog σ ξ} {prepared : Prepared}

private theorem cache_eq_of_queried {read : List Row → Except StorageFault α} {size : α → Nat}
    {ended : Except Failure α × Catalog σ ξ} (queried : catalog.Queried prepared read size ended) :
    ended.2.cache = catalog.cache := by
  cases queried <;> rfl

private theorem kind_of_queried {read : List Row → Except StorageFault α} {size : α → Nat}
    {failure : Failure} {after : Catalog σ ξ}
    (queried : catalog.Queried prepared read size (.error failure, after)) :
    failure.kind = .storageFault := by
  cases queried <;> rfl

private theorem cache_eq_of_written {ended : Except Failure UInt64 × Catalog σ ξ}
    (written : catalog.Written prepared ended) : ended.2.cache = catalog.cache := by
  cases written <;> rfl

private theorem kind_of_written {failure : Failure} {after : Catalog σ ξ}
    (written : catalog.Written prepared (.error failure, after)) :
    failure.kind = .storageFault := by
  cases written <;> rfl

end Executing

variable {catalog : Catalog (ObservedCache σ) ξ} {tag : Tag}

/-- The identifier of a tag is asked for at most once, and a fault of the cache is answered. -/
private theorem consults_resolved {ended : Except Failure TagId × Catalog (ObservedCache σ) ξ}
    (resolved : catalog.Resolved tag ended) :
    ∃ asked, Consults catalog asked (ended.1.map fun _ => ()) ended.2 ∧
      ended.2.executor = catalog.executor ∧ ∀ entry ∈ asked, entry.2.isLookUp ∧
        ∀ fault, CacheCall.FailsWith entry fault → ended.1 = .error (.ofCache fault) := by
  cases resolved with
  | invalid _ => exact ⟨[], .nothing rfl, rfl, by simp⟩
  | @unknown fault cache _ ran =>
    have fails := (ObservedCache.of_making rfl ran).2
    refine ⟨_, .called rfl ran rfl ?_, rfl, ?_⟩
    · rintro other ⟨⟩ _
      rfl
    · simp only [List.forall_mem_singleton]
      refine ⟨rfl, fun other failed => ?_⟩
      cases (fails other).mp failed
      rfl
  | known _ ran =>
    have fails := (ObservedCache.of_making rfl ran).2
    refine ⟨_, .called rfl ran rfl (by rintro _ ⟨⟩), rfl, ?_⟩
    simp only [List.forall_mem_singleton]
    refine ⟨rfl, fun other failed => ?_⟩
    cases (fails other).mp failed

variable [Executor ξ] {entity : Int64}

/-- A write after the identifier was found asks nothing more, and only the store can spoil it. -/
private theorem consults_change {middle : Catalog (ObservedCache σ) ξ} {id : TagId}
    {prepared : Prepared} {ended : Except Failure UInt64 × Catalog (ObservedCache σ) ξ}
    (resolved : catalog.Resolved tag (.ok id, middle)) (written : middle.Written prepared ended) :
    ∃ asked, Consults catalog asked (ended.1.map fun _ => ()) ended.2 ∧
      (∀ entry ∈ asked, ∀ fault, ¬ CacheCall.FailsWith entry fault) ∧
      ∀ failure, ended.1 = .error failure → failure.kind ≠ .invalidQuery := by
  obtain ⟨asked, consulted, _, only⟩ := consults_resolved resolved
  refine ⟨asked, consulted.ending (cache_eq_of_written written), ?_, ?_⟩
  · intro entry member fault failed
    cases (only entry member).2 fault failed
  · rcases ended with ⟨failure | count, after⟩
    · rintro _ ⟨⟩
      rw [kind_of_written written]
      exact nofun
    · rintro _ ⟨⟩

private theorem consults_added {ended : Except Failure Bool × Catalog (ObservedCache σ) ξ}
    (added : catalog.Added entity tag ended) :
    ∃ asked, Consults catalog asked (ended.1.map fun _ => ()) ended.2 ∧
      (Request.Rejected asked (.command (.addTag entity tag)) ended.1 →
        ended.2.executor = catalog.executor ∧ ∀ entry ∈ asked, entry.2.isLookUp) := by
  cases added with
  | unresolved resolved =>
    obtain ⟨asked, consulted, executor, only⟩ := consults_resolved resolved
    exact ⟨asked, consulted, fun _ => ⟨executor, fun entry member => (only entry member).1⟩⟩
  | unwritten resolved written =>
    obtain ⟨asked, consulted, _, spared⟩ := consults_change resolved written
    exact ⟨asked, consulted, fun rejected => absurd rejected (spared _ rfl)⟩
  | written resolved written =>
    obtain ⟨asked, consulted, _⟩ := consults_change resolved written
    exact ⟨asked, consulted, fun rejected => rejected.elim⟩

/-- A removal goes on to the store only when the cache knows the tag. -/
private theorem consults_removed {ended : Except Failure Bool × Catalog (ObservedCache σ) ξ}
    (removed : catalog.Removed entity tag ended) :
    ∃ asked, Consults catalog asked (ended.1.map fun _ => ()) ended.2 ∧
      (Request.Rejected asked (.command (.removeTag entity tag)) ended.1 →
        ended.2.executor = catalog.executor ∧ ∀ entry ∈ asked, entry.2.isLookUp) := by
  cases removed with
  | unresolved resolved _ =>
    obtain ⟨asked, consulted, executor, only⟩ := consults_resolved resolved
    exact ⟨asked, consulted, fun _ => ⟨executor, fun entry member => (only entry member).1⟩⟩
  | unknown resolved unknown =>
    obtain ⟨asked, consulted, executor, only⟩ := consults_resolved resolved
    refine ⟨asked, ⟨consulted.history_eq, consulted.cache_eq, ?_⟩,
      fun _ => ⟨executor, fun entry member => (only entry member).1⟩⟩
    intro entry member fault failed other
    cases (only entry member).2 fault failed
    rw [Failure.isUnknownTag_ofCache, other] at unknown
    cases unknown
  | unwritten resolved written =>
    obtain ⟨asked, consulted, _, spared⟩ := consults_change resolved written
    exact ⟨asked, consulted, fun rejected => absurd rejected (spared _ rfl)⟩
  | written resolved written =>
    obtain ⟨asked, consulted, unfailing, _⟩ := consults_change resolved written
    refine ⟨asked, consulted, fun rejected => ?_⟩
    obtain ⟨entry, member, name, failed⟩ := rejected
    exact absurd failed (unfailing entry member _)

private theorem consults_loaded {ended : Except Failure Nat × Catalog (ObservedCache σ) ξ}
    (loaded : catalog.Loaded ended) :
    ∃ asked, Consults catalog asked (ended.1.map fun _ => ()) ended.2 := by
  cases loaded with
  | unread queried => exact ⟨_, .nothing (cache_eq_of_queried (α := List StoredTag) queried)⟩
  | @refused records middle fault _ queried ran =>
    have read : Consults catalog [] (.ok ()) middle := .nothing (cache_eq_of_queried queried)
    refine ⟨_, read.append (.called rfl ran rfl ?_)⟩
    rintro _ ⟨⟩ _
    rfl
  | @loaded records middle _ queried ran =>
    have read : Consults catalog [] (.ok ()) middle := .nothing (cache_eq_of_queried queried)
    exact ⟨_, read.append (.called rfl ran rfl (by rintro _ ⟨⟩))⟩

omit [Executor ξ] in
/-- Records are offered one by one, and when an offer fails a fault is kept, which is never
that a signature is unknown. -/
private theorem offerAll_observed (accepts : IdCache.AcceptsWrites σ) (records : List StoredTag)
    (observed : ObservedCache σ) :
    ∃ asked, (offerAll records observed).2.history = observed.history ++ asked ∧
      (offerAll records observed).2.cache =
        asked.foldl (fun cache entry => entry.2.effect cache) observed.cache ∧
      (∀ entry ∈ asked, ∀ fault, CacheCall.FailsWith entry fault →
        (offerAll records observed).1 ≠ none) ∧
      ∀ first ∈ (offerAll records observed).1, first.isNotFound = false := by
  induction records using List.reverseRecOn with
  | nil => exact ⟨[], (List.append_nil _).symm, rfl, by simp, by simp [offerAll]⟩
  | append_singleton earlier record ih =>
    obtain ⟨asked, history, cache, kept, known⟩ := ih
    rcases offered : offerAll earlier observed with ⟨first, before⟩
    rw [offered] at history cache kept known
    rcases ran : (IdCache.record record.signature record.id).runFrom before with ⟨result, after⟩
    obtain ⟨called, fails⟩ := ObservedCache.of_making rfl ran
    have offers := offerAll_append_singleton earlier record observed
    rw [offered] at offers
    dsimp only at offers
    rw [ran] at offers
    let entry : σ × CacheCall := (before.cache, .record record.signature record.id)
    have history : after.history = observed.history ++ (asked ++ [entry]) := by
      rw [called, ObservedCache.after, history, List.append_assoc]
    have cache : after.cache = (asked ++ [entry]).foldl (fun cache entry => entry.2.effect cache)
        observed.cache := by
      rw [called, ObservedCache.after, List.foldl_append, ← cache]
      rfl
    rw [offers]
    cases result with
    | ok =>
      rw [Option.or_none]
      refine ⟨_, history, cache, List.forall_mem_append.mpr ⟨kept, ?_⟩, known⟩
      simp only [List.forall_mem_singleton]
      intro fault failed
      cases (fails fault).mp failed
    | error fault =>
      refine ⟨_, history, cache, fun _ _ _ _ => by simp, fun kept member => ?_⟩
      rcases Option.or_eq_some_iff.mp member with old | ⟨_, new⟩
      · exact known kept old
      · cases new
        cases fault with
        | notFound name => exact absurd ((fails (.notFound name)).mpr rfl) (accepts _ _ name rfl)
        | _ => rfl

private theorem consults_created (accepts : IdCache.AcceptsWrites σ) {drafts : List TagDraft}
    {ended : Except Failure (List StoredTag) × Catalog (ObservedCache σ) ξ}
    (created : catalog.Created drafts ended) :
    ∃ asked, Consults catalog asked (ended.1.map fun _ => ()) ended.2 ∧
      (Request.Rejected asked (.command (.createTags drafts)) ended.1 →
        ended.2.executor = catalog.executor ∧ ∀ entry ∈ asked, entry.2.isLookUp) := by
  cases created with
  | invalid _ => exact ⟨[], .nothing rfl, fun _ => ⟨rfl, by simp⟩⟩
  | nothing _ => exact ⟨[], .nothing rfl, fun rejected => rejected.elim⟩
  | unstored _ queried =>
    refine ⟨[], .nothing (cache_eq_of_queried (α := List StoredTag) queried), fun rejected => ?_⟩
    exact absurd ((kind_of_queried (α := List StoredTag) queried).symm.trans rejected) nofun
  | @offered records middle _ queried =>
    have read : Consults catalog [] (.ok ()) middle := .nothing (cache_eq_of_queried queried)
    obtain ⟨asked, history, cache, kept, known⟩ := offerAll_observed accepts records middle.cache
    have kind (fault : CacheFault) (first : (offerAll records middle.cache).1 = some fault) :
        (Failure.ofCache fault).kind = .unavailable := by
      rw [Failure.kind_ofCache, known fault first]
      rfl
    cases first : (offerAll records middle.cache).1 with
    | none =>
      refine ⟨_, read.append ⟨history, cache, ?_⟩, fun rejected => rejected.elim⟩
      intro entry member fault failed
      exact absurd first (kept entry member fault failed)
    | some fault =>
      refine ⟨_, read.append ⟨history, cache, ?_⟩, ?_⟩
      · intro _ _ _ _ _
        exact ⟨_, rfl, kind fault first⟩
      · intro rejected
        exact absurd ((kind fault first).symm.trans rejected) nofun

private theorem consults_attached (accepts : IdCache.AcceptsWrites σ) {raw : String} {type : TagKind}
    {ended : Except Failure Bool × Catalog (ObservedCache σ) ξ}
    (attached : catalog.Attached entity raw type ended) :
    ∃ asked, Consults catalog asked (ended.1.map fun _ => ()) ended.2 := by
  have asked {answer : Except CacheFault TagId} {cache : ObservedCache σ}
      (ran : (IdCache.lookup (Tag.parse raw).signature).runFrom catalog.cache = (answer, cache))
      (harmless : ∀ fault, answer = .error fault → fault.isNotFound) :
      Consults catalog [(catalog.cache.cache, .lookup (Tag.parse raw).signature)] (.ok ())
        { catalog with cache } := by
    refine .called rfl ran rfl fun fault failed other => ?_
    rw [harmless fault failed] at other
    cases other
  cases attached with
  | known ran added =>
    obtain ⟨_, consulted, _⟩ := consults_added added
    exact ⟨_, (asked ran (by rintro _ ⟨⟩)).append consulted⟩
  | refused ran _ =>
    refine ⟨_, .called rfl ran rfl ?_⟩
    rintro _ ⟨⟩ _
    rfl
  | uncreated ran created =>
    obtain ⟨_, consulted, _⟩ := consults_created accepts created
    exact ⟨_, (asked ran (by rintro _ ⟨⟩; rfl)).append consulted⟩
  | created ran created added =>
    obtain ⟨_, consulted, _⟩ := consults_created accepts created
    obtain ⟨_, consulted', _⟩ := consults_added added
    exact ⟨_, ((asked ran (by rintro _ ⟨⟩; rfl)).append consulted).append consulted'⟩

omit [Executor ξ] in
/-- The signatures of a filter are asked for at most once. -/
private theorem consults_resolve {signatures : List Signature} {result : Except CacheFault Resolution}
    {cache : ObservedCache σ}
    (ran : (Filter.resolve signatures).runFrom catalog.cache = (result, cache)) :
    ∃ asked, Consults catalog asked ((result.mapError .ofCache).map fun _ => ())
      { catalog with cache } ∧ ∀ entry ∈ asked, entry.2.isLookUp := by
  unfold Filter.resolve at ran
  by_cases empty : signatures = []
  · rw [if_pos empty] at ran
    cases ran
    exact ⟨[], .nothing rfl, by simp⟩
  · rw [if_neg empty] at ran
    refine ⟨_, .called rfl ran rfl ?_, by simp [CacheCall.isLookUp]⟩
    rintro _ rfl _
    rfl

private theorem consults_listed [shape : RowShape α] {filter : Filter} {window : PageWindow}
    {ended : Except Failure (Page α) × Catalog (ObservedCache σ) ξ}
    (listed : catalog.Listed filter window ended) :
    ∃ asked, Consults catalog asked (ended.1.map fun _ => ()) ended.2 ∧
      (Request.Rejected asked (.listEntities shape filter window) ended.1 →
        ended.2.executor = catalog.executor ∧ ∀ entry ∈ asked, entry.2.isLookUp) := by
  cases listed with
  | uncompiled ran =>
    rcases Filter.of_compile_error ran with ⟨fault, rfl, rfl⟩ | ⟨fault, resolving, rfl⟩ |
      ⟨_, fault, resolving, rfl⟩
    · exact ⟨[], .nothing rfl, fun _ => ⟨rfl, by simp⟩⟩
    · obtain ⟨asked, consulted, only⟩ := consults_resolve resolving
      exact ⟨asked, consulted, fun _ => ⟨rfl, only⟩⟩
    · obtain ⟨asked, consulted, only⟩ := consults_resolve resolving
      exact ⟨asked, consulted.ending rfl, fun _ => ⟨rfl, only⟩⟩
  | @compiled _ cache _ ended ran queried =>
    obtain ⟨_, resolved, resolving, _⟩ := Filter.of_compile_ok ran
    obtain ⟨asked, consulted, _⟩ := consults_resolve resolving
    have same : ended.2.cache = cache := cache_eq_of_queried queried
    refine ⟨asked, consulted.ending same, fun rejected => ?_⟩
    rcases ended with ⟨failure | page, after⟩
    · exact absurd ((kind_of_queried queried).symm.trans rejected) nofun
    · exact rejected.elim

/-- What the answer to a request says of the calls that were made of the cache and of the
executor meanwhile. -/
structure Explained (catalog : Catalog (ObservedCache σ) (Observed ξ)) (request : Request)
    (answer : Except Failure request.Answer) (asked : List (σ × CacheCall))
    (made : List (ξ × ExecutorCall)) (after : Catalog (ObservedCache σ) (Observed ξ)) : Prop where
  ran : request.step.runFrom catalog = (answer, after)
  asked_eq : after.cache.history = catalog.cache.history ++ asked
  made_eq : after.executor.history = catalog.executor.history ++ made
  rejected : request.Rejected asked answer → made = [] ∧ (∀ entry ∈ asked, entry.2.isLookUp) ∧
    (IdCache.KeepsOnLookUp σ → after.cache.cache = catalog.cache.cache)
  /-- One bad tag spoils a batch before anything is asked. -/
  spoiled : ∀ drafts, request = .command (.createTags drafts) →
    (∃ draft ∈ drafts, draft.tag.check ≠ .ok ()) → request.Rejected asked answer ∧ asked = []
  unavailable : ∀ entry ∈ asked, ∀ fault, CacheCall.FailsWith entry fault →
    fault.isNotFound = false → ∃ failure, answer = .error failure ∧ failure.kind = .unavailable
  storage : ∀ call ∈ made, ∀ fault, request.outcome call = .error fault →
    answer = .error (.ofStorage fault)
  classified : ∀ failure, answer = .error failure → failure.Classified

/-- A rejected request calls no executor and only looks up. -/
private theorem consults_step (accepts : IdCache.AcceptsWrites σ)
    (catalog : Catalog (ObservedCache σ) ξ) (request : Request) :
    ∃ asked, Consults catalog asked ((request.step.runFrom catalog).1.map fun _ => ())
        (request.step.runFrom catalog).2 ∧
      (request.Rejected asked (request.step.runFrom catalog).1 →
        (request.step.runFrom catalog).2.executor = catalog.executor ∧
          ∀ entry ∈ asked, entry.2.isLookUp) := by
  cases request with
  | command command =>
    cases command with
    | loadCache =>
      obtain ⟨asked, consulted⟩ := consults_loaded (loaded catalog)
      exact ⟨asked, consulted, by rintro ⟨⟩⟩
    | createTags drafts => exact consults_created accepts (created catalog drafts)
    | addTag entity tag => exact consults_added (added catalog entity tag)
    | removeTag entity tag => exact consults_removed (removed catalog entity tag)
    | attachTag entity raw type =>
      obtain ⟨asked, consulted⟩ := consults_attached accepts (attached catalog entity raw type)
      exact ⟨asked, consulted, by rintro ⟨⟩⟩
  | listEntities shape filter window => exact consults_listed (listed catalog filter window)
  | listTags search window =>
    exact ⟨[], .nothing (cache_eq_of_queried (queried_listTags catalog search window)), by rintro ⟨⟩⟩
  | entityTags entity =>
    exact ⟨[], .nothing (cache_eq_of_queried (queried_entityTags catalog entity)), by rintro ⟨⟩⟩

/-- A batch with a bad tag is refused before anything is asked. -/
private theorem createTags_of_bad (catalog : Catalog σ ξ) {drafts : List TagDraft}
    (bad : ∃ draft ∈ drafts, draft.tag.check ≠ .ok ()) :
    ∃ fault, (createTags drafts).runFrom catalog = (.error (.ofQuery fault), catalog) := by
  obtain ⟨draft, member, checked⟩ := bad
  have ends := created catalog drafts
  generalize (createTags drafts).runFrom catalog = ended at ends
  cases ends with
  | @invalid fault _ => exact ⟨fault, rfl⟩
  | nothing empty =>
    rw [empty] at member
    cases member
  | unstored valid _ => exact absurd (valid draft member) checked
  | offered valid _ => exact absurd (valid draft member) checked

/-- Failures are classified by their causes, and rejected requests touch nothing: whatever is
requested of a catalog in whatever state, and whatever its cache and its executor answer. -/
theorem step_explained (accepts : IdCache.AcceptsWrites σ)
    (catalog : Catalog (ObservedCache σ) (Observed ξ)) (request : Request) :
    ∃ answer asked made after, Explained catalog request answer asked made after := by
  obtain ⟨asked, consulted, untouched⟩ := consults_step accepts catalog request
  obtain ⟨made, events, tracked, _⟩ := tracks_step catalog request
  rcases ran : request.step.runFrom catalog with ⟨answer, after⟩
  rw [ran] at consulted untouched tracked
  refine ⟨answer, asked, made, after, ran, consulted.history_eq, tracked.history_eq, ?_, ?_, ?_,
    ?_, ?_⟩
  · intro rejected
    obtain ⟨same, lookUps⟩ := untouched rejected
    have nothing := tracked.history_eq
    rw [same] at nothing
    exact ⟨List.self_eq_append_right.mp nothing, lookUps,
      fun keeps => consulted.cache_eq_of_lookUps keeps lookUps⟩
  · rintro drafts rfl bad
    obtain ⟨fault, refused⟩ := createTags_of_bad catalog bad
    rw [show (createTags drafts).runFrom catalog = (answer, after) from ran] at refused
    cases refused
    exact ⟨rfl, List.self_eq_append_right.mp consulted.history_eq⟩
  · intro entry member fault failed other
    obtain ⟨failure, failed, kind⟩ := consulted.unavailable entry member fault failed other
    exact ⟨failure, Outcome.map_error_iff.mp failed, kind⟩
  · intro call member fault outcome
    exact Outcome.map_error_iff.mp (tracked.failed call member fault outcome)
  · intro failure failed
    exact tracked.classified failure (Outcome.map_error_iff.mpr failed)

/-- A catalog whose cache was not loaded, on an executor that has no answer prepared. -/
def unloaded : Catalog (ObservedCache ResidentCache) (Observed AnswerQueue) where
  schema := {}
  schema_checked := Schema.check_usual
  cache := { cache := {} }
  executor := { executor := {} }

/-- An attachment through a cache that was not loaded is unavailable. -/
theorem step_explained_unloaded :
    let request := Request.command (.addTag 1 (.bare "jazz"))
    IdCache.AcceptsWrites ResidentCache ∧
      ((addTag 1 (.bare "jazz")).runFrom unloaded).1 = .error (.ofCache .notReady) ∧
      ∃ answer asked made after, Explained unloaded request answer asked made after :=
  ⟨ResidentCache.acceptsWrites, rfl,
    step_explained ResidentCache.acceptsWrites unloaded (.command (.addTag 1 (.bare "jazz")))⟩

end Catalog

end TagQuery
