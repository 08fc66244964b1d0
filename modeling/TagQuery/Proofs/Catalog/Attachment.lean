import TagQuery.Proofs.Catalog.Outcomes
import TagQuery.Proofs.Executor.Observed
import TagQuery.Proofs.IdCache.Steady
import TagQuery.Proofs.Listing.Compiled
import TagQuery.Proofs.Listing.Identifiers

/-! What attaching a tag writes is what a filter for the tag asks for afterwards. -/

namespace TagQuery.Catalog

variable {σ ξ : Type} [IdCache σ] [Executor ξ]

/-- The calls that store one tag: none, or one insert of it. -/
inductive Inserts (schema : Schema) (draft : TagDraft) : List (ξ × ExecutorCall) → Prop
  | none : Inserts schema draft []
  | one {executor : ξ} {bound : PositionalStatement} :
    (schema.insertTags [draft]).Binds schema.dialect bound →
    bound.sql = "INSERT INTO " ++ schema.tags.table ++ " (key, value, type) VALUES (" ++
      schema.dialect.placeholder 1 ++ ", " ++ schema.dialect.placeholder 2 ++ ", " ++
      schema.dialect.placeholder 3 ++
      ") ON CONFLICT DO NOTHING RETURNING id, key, value, type" →
    bound.values = [.text draft.tag.key, .ofText? draft.tag.value, .text draft.type.name] →
      Inserts schema draft [(executor, .query bound)]

/-- A statement that attaches a tag to an entity. The identifier of the tag is in its text and
is read back from there, and the entity is its only value. -/
structure Associates (schema : Schema) (entity : Int64) (id : TagId)
    (bound : PositionalStatement) : Prop where
  binds : (schema.attach entity id).Binds schema.dialect bound
  sql : bound.sql = "INSERT INTO " ++ schema.association.table ++ " (" ++
    schema.association.entityColumn ++ ", " ++ schema.association.tagColumn ++ ") VALUES (" ++
    schema.dialect.placeholder 1 ++ ", " ++ id.text ++ ") ON CONFLICT DO NOTHING"
  values : bound.values = [.integer entity]
  named : TagId.readAfter? (schema.attachStart schema.dialect).toList bound.sql.toList = some id

/-- A filter that counts the rows of an entity with one tag, whose identifier is in the text of
the test and is read back from there. -/
structure Aggregates (schema : Schema) (id : TagId) (compiled : CompiledFilter) : Prop where
  predicate : compiled.predicate = .leaf (.carries id)
  text : compiled.predicate.text schema = "SUM(CASE WHEN et." ++ schema.association.tagColumn ++
    " = " ++ id.text ++ " THEN 1 ELSE 0 END) > 0"
  named : TagId.readEach schema.testStart.toList (compiled.predicate.text schema).toList = [id]
  params : compiled.params = .empty

/-- An attachment that went well: the tag was stored at most, then it was attached under the
identifier that the cache has for it, and a filter for it tests for that identifier. -/
structure Attaches (catalog : Catalog σ (Observed ξ)) (entity : Int64) (raw : String)
    (type : TagKind) (id : TagId) (after : Catalog σ (Observed ξ)) : Prop where
  calls : ∃ inserts executor bound, Inserts catalog.schema ⟨Tag.parse raw, type⟩ inserts ∧
    Associates catalog.schema entity id bound ∧
    after.executor.history =
      catalog.executor.history ++ inserts ++ [(executor, .execute bound)]
  known : (IdCache.lookup (Tag.parse raw).signature).runFrom after.cache = (.ok id, after.cache)
  tested : ¬ ((Tag.parse raw).key = sortKey ∧ (Tag.parse raw).value.isSome) →
    ∃ compiled, (Filter.ofTag (Tag.parse raw)).compile.runFrom after.cache =
        (.ok compiled, after.cache) ∧
      Aggregates catalog.schema id compiled

/-- An attachment that failed: nothing was attached, or the executor failed to attach it. -/
inductive Unattached (catalog : Catalog σ (Observed ξ)) (entity : Int64) (raw : String)
    (type : TagKind) (failure : Failure) (after : Catalog σ (Observed ξ)) : Prop
  | unasked {inserts : List (ξ × ExecutorCall)} :
    Inserts catalog.schema ⟨Tag.parse raw, type⟩ inserts →
    after.executor.history = catalog.executor.history ++ inserts →
      Unattached catalog entity raw type failure after
  | failed {inserts : List (ξ × ExecutorCall)} {executor : ξ} {bound : PositionalStatement}
    {id : TagId} {fault : StorageFault} :
    Inserts catalog.schema ⟨Tag.parse raw, type⟩ inserts →
    Associates catalog.schema entity id bound →
    after.executor.history = catalog.executor.history ++ inserts ++ [(executor, .execute bound)] →
    ((Executor.execute bound).runFrom executor).1 = .error fault →
    failure = .ofStorage fault → Unattached catalog entity raw type failure after

/-- What is written for the tag of a raw text and what is read for it name the same tag. -/
structure NamesOneTag (catalog : Catalog σ (Observed ξ)) (entity : Int64) (raw : String)
    (type : TagKind) : Prop where
  attached : ∀ new after, (attachTag entity raw type).runFrom catalog = (.ok new, after) →
    ∃ id, catalog.Attaches entity raw type id after
  unattached : ∀ failure after, (attachTag entity raw type).runFrom catalog = (.error failure, after) →
    catalog.Unattached entity raw type failure after

section Texts

variable {schema : Schema} (checked : schema.check = .ok ())
include checked

omit [Executor ξ] in
private theorem inserts_one (draft : TagDraft) (executor : ξ) : Inserts schema draft
    [(executor, .query (schema.insertion schema.dialect draft))] :=
  .one (Schema.bind_insertTags_singleton checked schema.dialect draft) rfl rfl

private theorem associates_attachment (entity : Int64) (id : TagId) :
    Associates schema entity id (schema.attachment schema.dialect entity id) where
  binds := Schema.bind_attach checked schema.dialect entity id
  sql := rfl
  values := rfl
  named := schema.readAfter?_attachment schema.dialect entity id

private theorem aggregates_of_carries {compiled : CompiledFilter} {id : TagId}
    (predicate : compiled.predicate = .leaf (.carries id)) (params : compiled.params = .empty) :
    Aggregates schema id compiled := by
  have inlines := Predicate.inlines (Schema.named_of_check checked) compiled.predicate []
  refine ⟨predicate, ?_, ?_, params⟩
  · rw [predicate]
    rfl
  · rw [predicate, List.append_nil] at inlines
    rw [predicate, inlines]
    rfl

end Texts

section Calls

omit [IdCache σ]

variable {catalog : Catalog σ (Observed ξ)} {prepared : Prepared} {bound : PositionalStatement}

/-- A query that is bound is one call. -/
private theorem calls_of_queried {α : Type} {read : List Row → Except StorageFault α}
    {size : α → Nat} {ended : Except Failure α × Catalog σ (Observed ξ)}
    (queried : catalog.Queried prepared read size ended)
    (binds : prepared.Binds catalog.schema.dialect bound) :
    ended.2.schema = catalog.schema ∧ ended.2.executor.history =
      catalog.executor.history ++ [(catalog.executor.executor, .query bound)] := by
  rw [queried.eq_of_binds binds, Observed.runFrom_query]
  rcases (Executor.query bound).runFrom catalog.executor.executor with ⟨fault | rows, executor⟩
  · exact ⟨rfl, rfl⟩
  · dsimp only
    cases read rows <;> exact ⟨rfl, rfl⟩

/-- A write that is bound is one call, and fails only when that does. -/
private theorem calls_of_written {ended : Except Failure UInt64 × Catalog σ (Observed ξ)}
    (written : catalog.Written prepared ended)
    (binds : prepared.Binds catalog.schema.dialect bound) :
    ended.2.cache = catalog.cache ∧ ended.2.executor.history =
        catalog.executor.history ++ [(catalog.executor.executor, .execute bound)] ∧
      ∀ failure, ended.1 = .error failure → ∃ fault,
        ((Executor.execute bound).runFrom catalog.executor.executor).1 = .error fault ∧
        failure = .ofStorage fault := by
  rw [written.eq_of_binds binds, Observed.runFrom_execute]
  rcases (Executor.execute bound).runFrom catalog.executor.executor with ⟨fault | count, executor⟩
  · refine ⟨rfl, rfl, fun failure failed => ?_⟩
    cases failed
    exact ⟨fault, rfl, rfl⟩
  · exact ⟨rfl, rfl, nofun⟩

end Calls

variable {before catalog after : Catalog σ (Observed ξ)} {entity : Int64} {tag : Tag}
  {raw : String} {type : TagKind} {failure : Failure} {new : Bool}

private theorem calls_of_created {draft : TagDraft}
    {ended : Except Failure (List StoredTag) × Catalog σ (Observed ξ)}
    (created : catalog.Created [draft] ended) : ended.2.schema = catalog.schema ∧
      ∃ inserts, Inserts catalog.schema draft inserts ∧
        ended.2.executor.history = catalog.executor.history ++ inserts := by
  have binds := Schema.bind_insertTags_singleton catalog.schema_checked catalog.schema.dialect draft
  have inserts := inserts_one catalog.schema_checked draft catalog.executor.executor
  cases created with
  | invalid _ => exact ⟨rfl, [], .none, (List.append_nil _).symm⟩
  | nothing _ => exact ⟨rfl, [], .none, (List.append_nil _).symm⟩
  | unstored _ queried =>
    obtain ⟨same, grown⟩ := calls_of_queried (α := List StoredTag) queried binds
    exact ⟨same, _, inserts, grown⟩
  | offered _ queried =>
    obtain ⟨same, grown⟩ := calls_of_queried queried binds
    exact ⟨same, _, inserts, grown⟩

private theorem of_added_ok (added : catalog.Added entity tag (.ok new, after)) :
    ∃ id bound, tag.check = .ok () ∧
      (IdCache.lookup tag.signature).runFrom catalog.cache = (.ok id, after.cache) ∧
      Associates catalog.schema entity id bound ∧
      after.executor.history =
        catalog.executor.history ++ [(catalog.executor.executor, .execute bound)] := by
  cases added with
  | @written id _ _ _ resolved written =>
    have associates := associates_attachment catalog.schema_checked entity id
    cases resolved with
    | known checked asked =>
      obtain ⟨same, grown, _⟩ := calls_of_written written associates.binds
      dsimp only at same
      rw [← same] at asked
      exact ⟨id, _, checked, asked, associates, grown⟩

private theorem of_added_error (added : catalog.Added entity tag (.error failure, after)) :
    after.executor.history = catalog.executor.history ∨
      ∃ id bound fault, Associates catalog.schema entity id bound ∧
        after.executor.history =
          catalog.executor.history ++ [(catalog.executor.executor, .execute bound)] ∧
        ((Executor.execute bound).runFrom catalog.executor.executor).1 = .error fault ∧
        failure = .ofStorage fault := by
  cases added with
  | unresolved resolved =>
    cases resolved with
    | invalid _ => exact .inl rfl
    | unknown _ _ => exact .inl rfl
  | @unwritten id _ _ _ resolved written =>
    have associates := associates_attachment catalog.schema_checked entity id
    cases resolved with
    | known _ _ =>
      obtain ⟨_, grown, fails⟩ := calls_of_written written associates.binds
      obtain ⟨fault, answered, same⟩ := fails failure rfl
      exact .inr ⟨id, _, fault, associates, grown, answered, same⟩

section Parts

variable {inserts : List (ξ × ExecutorCall)}
  (insertion : Inserts before.schema ⟨Tag.parse raw, type⟩ inserts)
  (schema_eq : catalog.schema = before.schema)
  (history_eq : catalog.executor.history = before.executor.history ++ inserts)

include insertion schema_eq history_eq

private theorem attaches_of_added [SteadyCache σ]
    (added : catalog.Added entity (Tag.parse raw) (.ok new, after)) :
    ∃ id, before.Attaches entity raw type id after := by
  obtain ⟨id, bound, checked, asked, associates, grown⟩ := of_added_ok added
  rw [history_eq] at grown
  rw [schema_eq] at associates
  have kept : after.cache = catalog.cache := by
    have left := SteadyCache.kept catalog.cache (Tag.parse raw).signature
    rwa [asked] at left
  rw [← kept] at asked
  refine ⟨id, ⟨inserts, _, bound, insertion, associates, grown⟩, asked, fun tests => ?_⟩
  obtain ⟨compiled, compiles, predicate, params⟩ := Filter.runFrom_compile_ofTag
    (Leaf.subject?_tag tests) checked (SteadyCache.lookupMany_of_lookup asked)
    (OrderedMap.get?_insert_self _ _ _)
  exact ⟨compiled, compiles, aggregates_of_carries before.schema_checked predicate params⟩

private theorem unattached_of_added
    (added : catalog.Added entity (Tag.parse raw) (.error failure, after)) :
    before.Unattached entity raw type failure after := by
  rcases of_added_error added with same | ⟨id, bound, fault, associates, grown, answered, failed⟩
  · exact .unasked insertion (same.trans history_eq)
  · rw [history_eq] at grown
    rw [schema_eq] at associates
    exact .failed insertion associates grown answered failed

end Parts

private theorem namesOneTag_of_steady [SteadyCache σ] (catalog : Catalog σ (Observed ξ))
    (entity : Int64) (raw : String) (type : TagKind) : catalog.NamesOneTag entity raw type := by
  have ends := attached catalog entity raw type
  constructor
  · intro new after ran
    rw [ran] at ends
    cases ends with
    | known _ added =>
      refine attaches_of_added (.none : Inserts _ _ []) ?_ ?_ added
      · rfl
      · exact (List.append_nil _).symm
    | created _ created added =>
      obtain ⟨same, inserts, insertion, grown⟩ := calls_of_created created
      exact attaches_of_added insertion same grown added
  · intro failure after ran
    rw [ran] at ends
    cases ends with
    | known _ added =>
      refine unattached_of_added (.none : Inserts _ _ []) ?_ ?_ added
      · rfl
      · exact (List.append_nil _).symm
    | refused _ _ => exact .unasked .none (List.append_nil _).symm
    | uncreated _ created =>
      obtain ⟨_, inserts, insertion, grown⟩ := calls_of_created created
      exact .unasked insertion grown
    | created _ created added =>
      obtain ⟨same, inserts, insertion, grown⟩ := calls_of_created created
      exact unattached_of_added insertion same grown added

/-- Whatever the executor answers, and whatever the cache has before, in the process or in a
store that answers what it is asked for. -/
theorem attachTag_names_one_tag (entity : Int64) (raw : String) (type : TagKind) :
    (∀ catalog : Catalog ResidentCache (Observed ξ), catalog.NamesOneTag entity raw type) ∧
    ∀ {κ : Type} [KeyValueStore κ] [SteadyStore κ] (catalog : Catalog (SharedCache κ) (Observed ξ)),
      catalog.NamesOneTag entity raw type := by
  constructor
  · intro catalog
    exact namesOneTag_of_steady catalog entity raw type
  · intro κ _ _ catalog
    exact namesOneTag_of_steady catalog entity raw type

end TagQuery.Catalog
