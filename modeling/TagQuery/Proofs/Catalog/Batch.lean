import Mathlib.Data.List.Induction
import TagQuery.Executor.AnswerQueue
import TagQuery.Proofs.Catalog.Outcomes
import TagQuery.Proofs.Executor.Observed
import TagQuery.Proofs.IdCache.Selective
import TagQuery.Proofs.List.First
import TagQuery.Proofs.Listing.Complete

/-! What storing a batch of tags leaves in a cache that refuses some of them. -/

namespace TagQuery.Catalog

variable {σ ξ : Type} [IdCache σ] [SelectiveCache σ]

open SelectiveCache

/-- Records were offered to a cache, each of them once and in their order: the cache took those
that it does not refuse, and the first refusal is what comes of it. -/
structure Offered (before : ObservedCache σ) (records : List StoredTag)
    (fault : Option CacheFault) (after : ObservedCache σ) : Prop where
  fault_eq : fault = records.findSome? fun record => refusal? before.cache record.signature
  cache_eq : after.cache = upsertAll before.cache (accepted before.cache records)
  entries_eq : EntryCache.entry? after.cache = writtenOver (EntryCache.entry? before.cache)
    ((accepted before.cache records).map fun record => (record.signature, record.id))
  calls_eq : after.history.map Prod.snd = before.history.map Prod.snd ++
    records.map fun record => .record record.signature record.id

private theorem runFrom_record_observed (observed : ObservedCache σ) (signature : Signature)
    (id : TagId) : (IdCache.record signature id).runFrom observed =
      let history := observed.history ++ [(observed.cache, .record signature id)]
      (refusal? observed.cache signature).elim (.ok (), ⟨upsert observed.cache signature id, history⟩)
        fun fault => (.error fault, ⟨observed.cache, history⟩) := by
  change (((IdCache.record signature id).runFrom observed.cache).1, ObservedCache.mk
    ((IdCache.record signature id).runFrom observed.cache).2 _) = _
  rw [runFrom_record]
  cases refusal? observed.cache signature <;> rfl

private theorem refusal?_upsertAll (cache : σ) (records : List StoredTag) :
    refusal? (upsertAll cache records) = refusal? cache := by
  induction records generalizing cache with
  | nil => rfl
  | cons record rest ih =>
    rw [← refusal?_upsert cache record.signature record.id]
    exact ih (upsert cache record.signature record.id)

private theorem Offered.of_upsertAll {before after : ObservedCache σ} {records : List StoredTag}
    {fault : Option CacheFault}
    (fault_eq : fault = records.findSome? fun record => refusal? before.cache record.signature)
    (cache_eq : after.cache = upsertAll before.cache (accepted before.cache records))
    (calls_eq : after.history.map Prod.snd = before.history.map Prod.snd ++
      records.map fun record => .record record.signature record.id) :
    Offered before records fault after where
  fault_eq := fault_eq
  cache_eq := cache_eq
  entries_eq := by rw [cache_eq, entry?_upsertAll]
  calls_eq := calls_eq

theorem offered (records : List StoredTag) (before : ObservedCache σ) :
    Offered before records (offerAll records before).1 (offerAll records before).2 := by
  induction records using List.reverseRecOn with
  | nil => exact .of_upsertAll rfl rfl (List.append_nil _).symm
  | append_singleton earlier record ih =>
    rw [offerAll_append_singleton]
    generalize offerAll earlier before = ended at ih
    obtain ⟨first, middle⟩ := ended
    have same : refusal? middle.cache = refusal? before.cache := by
      rw [ih.cache_eq, refusal?_upsertAll]
    dsimp only
    rw [runFrom_record_observed, same]
    cases refused : refusal? before.cache record.signature with
    | none =>
      have kept : accepted before.cache (earlier ++ [record]) =
          accepted before.cache earlier ++ [record] := by
        simp [accepted, refused]
      refine .of_upsertAll ?_ ?_ ?_
      · rw [List.findSome?_append, ← ih.fault_eq, List.findSome?_singleton, refused]
        rfl
      · rw [kept, upsertAll, List.foldl_append]
        change upsert middle.cache record.signature record.id = _
        rw [ih.cache_eq]
        rfl
      · simp [ih.calls_eq]
    | some refusal =>
      have dropped : accepted before.cache (earlier ++ [record]) =
          accepted before.cache earlier := by
        simp [accepted, refused]
      refine .of_upsertAll ?_ ?_ ?_
      · rw [List.findSome?_append, ← ih.fault_eq, List.findSome?_singleton, refused]
        rfl
      · rw [dropped]
        exact ih.cache_eq
      · simp [ih.calls_eq]

variable [Executor ξ]

/-- What storing a batch of tags comes to, by what the executor answers the one statement that
is asked of it. -/
structure CachesBatch (catalog : Catalog (ObservedCache σ) ξ) (bound : PositionalStatement)
    (result : Except Failure (List StoredTag)) (after : Catalog (ObservedCache σ) ξ) : Prop where
  executor_eq : after.executor = (ExecutorCall.query bound).effect catalog.executor
  failed : ∀ fault, ((Executor.query bound).runFrom catalog.executor).1 = .error fault →
    result = .error (.ofStorage fault) ∧ after.cache = catalog.cache
  /-- The first row that is no record is reported, and none of the records before it is kept. -/
  misread : ∀ rows, ((Executor.query bound).runFrom catalog.executor).1 = .ok rows →
    (∃ row ∈ rows, ∃ flaw, (RowShape.ofRow row : Except RowFlaw StoredTag) = .error flaw) →
    ∃ row flaw, FirstOf (fun row => ∃ flaw,
        (RowShape.ofRow row : Except RowFlaw StoredTag) = .error flaw) rows row ∧
      (RowShape.ofRow row : Except RowFlaw StoredTag) = .error flaw ∧
      result = .error (.ofStorage (.rowShape flaw)) ∧ after.cache = catalog.cache
  cached : ∀ rows records, ((Executor.query bound).runFrom catalog.executor).1 = .ok rows →
    List.Forall₂ (fun row record => RowShape.ofRow row = .ok record) rows records →
    ∃ fault, Offered catalog.cache records fault after.cache ∧
      result = fault.elim (.ok records) fun fault => .error (.ofCache fault)

section Insert

variable {catalog : Catalog (ObservedCache σ) ξ} {drafts : List TagDraft}
  {bound : PositionalStatement} {rows : List Row} {executor : ξ}

/-- What is made of the records that an insert returned. -/
private def offering : Except Failure (List StoredTag) × Catalog (ObservedCache σ) ξ →
    Except Failure (List StoredTag) × Catalog (ObservedCache σ) ξ
  | (.error failure, after) => (.error failure, after)
  | (.ok records, middle) =>
    ((offerAll records middle.cache).1.elim (.ok records) fun fault => .error (.ofCache fault),
      { middle with
        cache := (offerAll records middle.cache).2
        events := middle.events ++ [.tagsCreated (amount records.length)] })

omit [SelectiveCache σ] in
/-- Valid tags are inserted, and the records that come back are offered to the cache. -/
private theorem runFrom_createTags (catalog : Catalog (ObservedCache σ) ξ)
    (valid : ∀ draft ∈ drafts, draft.tag.check = .ok ())
    (some : drafts ≠ []) : ∃ ended, Queried (α := List StoredTag) catalog
      (catalog.schema.insertTags (Schema.distinctTags drafts)) (List.mapM readRow) List.length
      ended ∧ (createTags drafts).runFrom catalog = offering ended := by
  have ends := created catalog drafts
  generalize (createTags drafts).runFrom catalog = ended at ends
  cases ends with
  | invalid refused =>
    rw [Schema.createTags_of_valid valid] at refused
    cases refused
  | nothing none => exact absurd none some
  | unstored _ queried => exact ⟨_, queried, rfl⟩
  | offered _ queried => exact ⟨_, queried, rfl⟩

private theorem cachesBatch_of_failed {fault : StorageFault}
    (ran : (Executor.query bound).runFrom catalog.executor = (.error fault, executor)) :
    CachesBatch catalog bound (.error (.ofStorage fault)) (catalog.faulted executor) := by
  refine ⟨?_, ?_, ?_, ?_⟩
  · rw [ExecutorCall.effect, ran]
    rfl
  · intro other failed
    rw [ran] at failed
    cases failed
    exact ⟨rfl, rfl⟩
  · intro rows answered
    rw [ran] at answered
    cases answered
  · intro rows records answered
    rw [ran] at answered
    cases answered

private theorem exists_mapM_readRow_error
    (flawed : ∃ row ∈ rows, ∃ flaw, (RowShape.ofRow row : Except RowFlaw StoredTag) = .error flaw) :
    ∃ row flaw, FirstOf (fun row => ∃ flaw,
        (RowShape.ofRow row : Except RowFlaw StoredTag) = .error flaw) rows row ∧
      (RowShape.ofRow row : Except RowFlaw StoredTag) = .error flaw ∧
      rows.mapM (readRow (α := StoredTag)) = .error (.rowShape flaw) := by
  obtain ⟨row, first⟩ := exists_firstOf flawed
  obtain ⟨_, _, _, ⟨flaw, failed⟩, _⟩ := id first
  exact ⟨row, flaw, first, failed, mapM_readRow_error_iff.mpr ⟨row, flaw, first, failed, rfl⟩⟩

private theorem cachesBatch_of_misread {fault : StorageFault}
    (ran : (Executor.query bound).runFrom catalog.executor = (.ok rows, executor))
    (failed : rows.mapM (readRow (α := StoredTag)) = .error fault) :
    CachesBatch catalog bound (.error (.ofStorage fault)) (catalog.faulted executor) := by
  refine ⟨?_, ?_, ?_, ?_⟩
  · rw [ExecutorCall.effect, ran]
    rfl
  · intro other failed
    rw [ran] at failed
    cases failed
  · intro others answered flawed
    rw [ran] at answered
    cases answered
    obtain ⟨row, flaw, first, shaped, failed'⟩ := exists_mapM_readRow_error flawed
    rw [failed] at failed'
    cases failed'
    exact ⟨row, flaw, first, shaped, rfl, rfl⟩
  · intro others records answered shaped
    rw [ran] at answered
    cases answered
    rw [mapM_readRow_ok_iff.mpr shaped] at failed
    cases failed

private theorem cachesBatch_of_offered {records : List StoredTag}
    {after : Catalog (ObservedCache σ) ξ}
    (ran : (Executor.query bound).runFrom catalog.executor = (.ok rows, executor))
    (read : rows.mapM readRow = .ok records) (executor_eq : after.executor = executor)
    (cache_eq : after.cache = (offerAll records catalog.cache).2) :
    CachesBatch catalog bound ((offerAll records catalog.cache).1.elim (.ok records) fun fault =>
      .error (.ofCache fault)) after := by
  refine ⟨?_, ?_, ?_, ?_⟩
  · rw [ExecutorCall.effect, ran]
    exact executor_eq
  · intro other failed
    rw [ran] at failed
    cases failed
  · intro others answered flawed
    rw [ran] at answered
    cases answered
    obtain ⟨row, flaw, first, shaped, failed⟩ := exists_mapM_readRow_error flawed
    rw [read] at failed
    cases failed
  · intro others records' answered shaped
    rw [ran] at answered
    cases answered
    rw [mapM_readRow_ok_iff.mpr shaped] at read
    cases read
    refine ⟨_, ?_, rfl⟩
    rw [cache_eq]
    exact offered records catalog.cache

end Insert

/-- A batch of valid tags is stored by one statement, and every record that comes back is offered
to the cache, whatever the cache refuses of them. When the executor fails or a row is no record,
nothing is offered. -/
theorem createTags_caches_batch (catalog : Catalog (ObservedCache σ) ξ) {drafts : List TagDraft}
    (valid : ∀ draft ∈ drafts, draft.tag.check = .ok ()) :
    (drafts = [] → (createTags drafts).runFrom catalog = (.ok [], catalog)) ∧
    (drafts ≠ [] → ∃ bound,
      (catalog.schema.insertTags (Schema.distinctTags drafts)).Binds catalog.schema.dialect bound ∧
      CachesBatch catalog bound ((createTags drafts).runFrom catalog).1
        ((createTags drafts).runFrom catalog).2) := by
  constructor
  · intro none
    subst none
    rfl
  · intro some
    obtain ⟨bound, binds, _⟩ := Schema.bindsInOrder_insertTags catalog.schema_checked
      catalog.schema.dialect (Schema.distinctTags drafts)
    refine ⟨bound, binds, ?_⟩
    obtain ⟨ended, queried, ran⟩ := runFrom_createTags catalog valid some
    rw [ran, queried.eq_of_binds binds]
    rcases answered : (Executor.query bound).runFrom catalog.executor with ⟨fault | rows, executor⟩
    · exact cachesBatch_of_failed answered
    · dsimp only
      cases read : rows.mapM (readRow (α := StoredTag)) with
      | error fault => exact cachesBatch_of_misread answered read
      | ok records => exact cachesBatch_of_offered answered read rfl rfl

/-- A catalog whose cache does not take one of the tags that its executor returns. -/
def refusing (rows : List Row) : Catalog (ObservedCache UnreliableCache) AnswerQueue where
  schema := {}
  schema_checked := Schema.check_usual
  cache := { cache := { fails := fun signature => signature = ⟨"person:carol"⟩ } }
  executor := { queries := [.ok rows] }

/-- The tags after the refused one are cached nevertheless, a repeated one as it came last. -/
theorem createTags_caches_batch_refused :
    let carol : TagDraft := ⟨.valued "person" "carol", ⟨"user"⟩⟩
    let dave : TagDraft := ⟨.valued "person" "dave", ⟨"user"⟩⟩
    let row (id : Int64) (value : String) : Row := ⟨[("id", .integer id), ("key", .text "person"),
      ("value", .text value), ("type", .text "user")]⟩
    ∃ after, (createTags [carol, dave]).runFrom
        (refusing [row 7 "carol", row 8 "dave", row 9 "dave"]) =
        (.error (.ofCache (.unavailable "timeout on person:carol")), after) ∧
      EntryCache.entry? after.cache.cache ⟨"person:carol"⟩ = none ∧
      EntryCache.entry? after.cache.cache ⟨"person:dave"⟩ = some ⟨9⟩ ∧
      after.cache.history.map Prod.snd = [.record ⟨"person:carol"⟩ ⟨7⟩,
        .record ⟨"person:dave"⟩ ⟨8⟩, .record ⟨"person:dave"⟩ ⟨9⟩] := by
  intro carol dave row
  have valid : ∀ draft ∈ [carol, dave], draft.tag.check = .ok () := by decide
  obtain ⟨bound, _, batch⟩ := (createTags_caches_batch
    (refusing [row 7 "carol", row 8 "dave", row 9 "dave"]) valid).2 (List.cons_ne_nil _ _)
  rcases ran : (createTags [carol, dave]).runFrom
    (refusing [row 7 "carol", row 8 "dave", row 9 "dave"]) with ⟨result, after⟩
  rw [ran] at batch
  let record (id : TagId) (draft : TagDraft) : StoredTag :=
    ⟨id, draft.tag.key, draft.tag.value, draft.type⟩
  obtain ⟨fault, offered, ends⟩ := batch.cached _
    [record ⟨7⟩ carol, record ⟨8⟩ dave, record ⟨9⟩ dave] rfl (.cons rfl (.cons rfl (.cons rfl .nil)))
  have first : fault = some (.unavailable "timeout on person:carol") :=
    offered.fault_eq.trans (by decide)
  subst first
  refine ⟨after, congrArg (fun result => (result, after)) ends, ?_, ?_, offered.calls_eq⟩
  · rw [offered.entries_eq]
    decide
  · rw [offered.entries_eq]
    decide

end TagQuery.Catalog
