import TagQuery.Proofs.Catalog.TagStore
import TagQuery.Proofs.Listing.Complete

/-! Catalogs whose caches hold nothing but what their stores named, and that every call
leaves them so. -/

namespace TagQuery

variable {σ ξ : Type} [IdCache σ] [BoundedCache σ] [Executor ξ] {schema : Schema}
  {store : TagStore schema ξ} {loaded : Bool}

/-- A catalog on a store whose cache names tags as the store does. -/
structure TagStore.Sound (store : TagStore schema ξ) (loaded : Bool) (catalog : Catalog σ ξ) :
    Prop where
  schema_eq : catalog.schema = schema
  distinct : (store.contents catalog.executor).signatures.Nodup
  cached : BoundedCache.OnlyHolds (store.contents catalog.executor).Names loaded catalog.cache

namespace TagStore.Sound

variable {catalog after : Catalog σ ξ}

theorem of_grows (sound : store.Sound loaded catalog) (same : after.schema = catalog.schema)
    (cache : after.cache = catalog.cache)
    (grows : (store.contents catalog.executor).Grows (store.contents after.executor)) :
    store.Sound loaded after where
  schema_eq := same.trans sound.schema_eq
  distinct := grows.distinct sound.distinct
  cached := cache ▸ BoundedCache.onlyHolds_imp grows.names sound.cached

theorem with_cache (sound : store.Sound loaded catalog) {cache : σ}
    (held : BoundedCache.OnlyHolds (store.contents catalog.executor).Names loaded cache) :
    store.Sound loaded { catalog with cache } where
  schema_eq := sound.schema_eq
  distinct := sound.distinct
  cached := held

end TagStore.Sound

namespace Catalog

/-- Fetching a prepared statement takes nothing from the store and repeats no signature. -/
def Harmless (store : TagStore schema ξ) (prepared : Prepared) : Prop :=
  ∀ bound executor, prepared.Binds schema.dialect bound →
    (store.contents executor).Grows (store.contents ((Executor.query bound).runFrom executor).2)

theorem Harmless.of_contents_eq {prepared : Prepared}
    (reads : ∀ bound executor, prepared.Binds schema.dialect bound → ∃ rows after,
      (Executor.query bound).runFrom executor = (.ok rows, after) ∧
        store.contents after = store.contents executor) : Harmless store prepared := by
  intro bound executor binds
  obtain ⟨rows, after, ran, same⟩ := reads bound executor binds
  rw [ran, same]
  exact .of_tags_eq rfl

variable {α : Type}

theorem keeps_report (event : Event) :
    Action.Keeps (store.Sound loaded) (report event : Step σ ξ Unit) :=
  .modify fun _ sound => sound.of_grows rfl rfl (.of_tags_eq rfl)

theorem keeps_onExecutor {action : Action StorageFault ξ α}
    (kept : ∀ before : Contents,
      Action.Keeps (fun executor => before.Grows (store.contents executor)) action) :
    Action.Keeps (store.Sound loaded) (onExecutor action : Step σ ξ α) := by
  have ran : Action.Keeps (store.Sound loaded)
      ((action.onPart Catalog.executor fun catalog executor =>
      { catalog with executor }).attempt : Step σ ξ _) :=
    fun catalog sound => sound.of_grows rfl rfl (kept _ catalog.executor (.of_tags_eq rfl))
  apply ran.bind
  intro result
  cases result with
  | ok answer => exact .pure answer
  | error fault => exact (keeps_report _).bind fun _ => .throw _

theorem keeps_query [RowShape α] {prepared : Prepared} (harmless : Harmless store prepared) :
    Action.Keeps (store.Sound loaded) (query prepared : Step σ ξ (List α)) := by
  refine .get_bind ?_
  intro catalog sound
  rw [sound.schema_eq]
  refine Action.Keeps.bind (keeps_onExecutor fun before => ?_) (fun items => ?_) catalog sound
  · exact Statement.keeps_fetchAll fun bound binds executor grown =>
      grown.trans (harmless bound executor binds)
  · exact (keeps_report _).bind fun _ => .pure items

theorem keeps_queryPage [RowShape α] {prepared : Prepared} (harmless : Harmless store prepared) :
    Action.Keeps (store.Sound loaded) (queryPage prepared : Step σ ξ (Page α)) := by
  refine .get_bind ?_
  intro catalog sound
  rw [sound.schema_eq]
  refine Action.Keeps.bind (keeps_onExecutor fun before => ?_) (fun page => ?_) catalog sound
  · exact Statement.keeps_fetchPage fun bound binds executor grown =>
      grown.trans (harmless bound executor binds)
  · exact (keeps_report _).bind fun _ => .pure page

/-- A write that changes associations only. -/
theorem keeps_write {prepared : Prepared}
    (writes : ∀ bound executor, prepared.Binds schema.dialect bound → ∃ count after,
      (Executor.execute bound).runFrom executor = (.ok count, after) ∧
        (store.contents after).tags = (store.contents executor).tags) :
    Action.Keeps (store.Sound loaded) (write prepared : Step σ ξ UInt64) := by
  refine .get_bind ?_
  intro catalog sound
  rw [sound.schema_eq]
  refine Action.Keeps.bind (keeps_onExecutor fun before => ?_) (fun count => ?_) catalog sound
  · apply Statement.keeps_run
    intro bound binds executor grown
    obtain ⟨_, after, ran, same⟩ := writes bound executor binds
    rw [ran]
    exact grown.trans (.of_tags_eq same)
  · exact (keeps_report _).bind fun _ => .pure count

/-- A step on the cache that leaves its entries among those that fit. -/
theorem keeps_onPart_cache {ε : Type} {action : Action ε σ α}
    (kept : ∀ fits, Action.Keeps (BoundedCache.OnlyHolds fits loaded) action) :
    Action.Keeps (store.Sound loaded) (action.onPart Catalog.cache fun catalog cache =>
      { catalog with cache } : Action ε (Catalog σ ξ) α) :=
  fun catalog sound => sound.with_cache (kept _ catalog.cache sound.cached)

theorem keeps_withCache {action : Action Failure σ α}
    (kept : ∀ fits, Action.Keeps (BoundedCache.OnlyHolds fits loaded) action) :
    Action.Keeps (store.Sound loaded) (withCache action : Step σ ξ α) :=
  keeps_onPart_cache kept

/-- Records that the store has are good entries for the cache. -/
private def Holding (store : TagStore schema ξ) (loaded : Bool) (records : List StoredTag)
    (catalog : Catalog σ ξ) : Prop :=
  store.Sound loaded catalog ∧ records ⊆ (store.contents catalog.executor).tags

private theorem keeps_onPart_holding {ε : Type} {records : List StoredTag} {action : Action ε σ α}
    (kept : ∀ fits : Signature → TagId → Prop, (∀ record ∈ records, fits record.signature record.id) →
      Action.Keeps (BoundedCache.OnlyHolds fits loaded) action) :
    Action.Keeps (Holding store loaded records) (action.onPart Catalog.cache fun catalog cache =>
      { catalog with cache } : Action ε (Catalog σ ξ) α) := by
  rintro catalog ⟨sound, stored⟩
  refine ⟨sound.with_cache (kept _ ?_ catalog.cache sound.cached), stored⟩
  exact fun record member => ⟨record, stored member, rfl, rfl⟩

private theorem keeps_report_holding {records : List StoredTag} (event : Event) :
    Action.Keeps (Holding store loaded records) (report event : Step σ ξ Unit) :=
  .modify fun _ ⟨sound, stored⟩ => ⟨sound.of_grows rfl rfl (.of_tags_eq rfl), stored⟩

theorem keeps_loadCache : Action.Keeps (store.Sound loaded) (loadCache : Step σ ξ Nat) := by
  refine .get_bind ?_
  intro catalog sound
  obtain rfl := sound.schema_eq
  obtain ⟨bound, binds, _⟩ :=
    Schema.bindsInOrder_listAllTags catalog.schema_checked catalog.schema.dialect
  obtain ⟨rows, records, after, ran, read, all, same⟩ := store.listAll catalog.executor binds
  rw [Action.runFrom_bind_of_ok (runFrom_query catalog binds ran read)]
  have loaded : Action.Keeps (Holding store loaded records) (onCache (IdCache.load (records.map
      fun record => (record.signature, record.id))) : Step σ ξ Unit) := by
    refine keeps_onPart_holding fun fits good => Action.Keeps.mapFault ?_
    apply BoundedCache.keeps_load
    intro entry member
    obtain ⟨record, inside, rfl⟩ := List.mem_map.mp member
    exact good record inside
  refine (loaded.bind (fun _ => (keeps_report_holding _).bind fun _ => .pure records.length) _ ?_).1
  refine ⟨sound.of_grows rfl rfl (.of_tags_eq (congrArg Contents.tags same)), ?_⟩
  rw [same]
  exact all.subset

/-- Every record is offered, and those that the cache takes are good. -/
private theorem keeps_recordAll (records : List StoredTag) :
    Action.Keeps (Holding store loaded records)
      (recordAll records : Step σ ξ (Option CacheFault)) := by
  refine .foldlM (fun record member first => ?_) none
  have offered : Action.Keeps (Holding store loaded records)
      ((IdCache.record record.signature record.id).onPart Catalog.cache
        (fun catalog cache => { catalog with cache }) : Action CacheFault (Catalog σ ξ) Unit) :=
    keeps_onPart_holding fun fits good => BoundedCache.keeps_record (good record member)
  apply offered.attempt.bind
  intro result
  cases result with
  | ok => exact .pure _
  | error fault => exact .pure _

/-- The insert of new tags stores those that were missing and answers with them. -/
theorem runFrom_query_insertTags {catalog : Catalog σ ξ} (sound : store.Sound loaded catalog)
    {drafts : List TagDraft} (valid : ∀ draft ∈ drafts, draft.tag.check = .ok ())
    (distinct : (drafts.map fun draft => draft.tag.signature).Nodup) :
    ∃ created executor,
      (query (schema.insertTags drafts) : Step σ ξ (List StoredTag)).runFrom catalog =
        (.ok created, { catalog with
          executor, events := catalog.events ++ [.queried (amount created.length)] }) ∧
      (created.map StoredTag.draft).Perm (drafts.filter fun draft =>
        draft.tag.signature ∉ (store.contents catalog.executor).signatures) ∧
      store.contents executor = { store.contents catalog.executor with
        tags := (store.contents catalog.executor).tags ++ created } := by
  obtain rfl := sound.schema_eq
  obtain ⟨bound, binds, _⟩ :=
    Schema.bindsInOrder_insertTags catalog.schema_checked catalog.schema.dialect drafts
  obtain ⟨rows, created, executor, ran, read, stored, grown⟩ :=
    store.insert catalog.executor valid distinct binds
  exact ⟨created, executor, runFrom_query catalog binds ran read, stored, grown⟩

theorem keeps_createTags (tags : List TagDraft) :
    Action.Keeps (store.Sound loaded) (createTags tags : Step σ ξ (List StoredTag)) := by
  refine .get_bind ?_
  intro start begun
  rw [begun.schema_eq]
  refine Action.Keeps.ofExcept_bind (fun made making => ?_) start begun
  cases made with
  | none => exact .pure []
  | some prepared =>
    intro catalog sound
    obtain ⟨rfl, valid⟩ := Schema.of_createTags_some (Outcome.mapError_ok_iff.mp making)
    obtain ⟨created, executor, ran, stored, grown⟩ :=
      runFrom_query_insertTags sound valid (Schema.nodup_distinctTags tags)
    rw [Action.runFrom_bind_of_ok ran]
    refine ((keeps_recordAll created).bind (fun refused => ?_) _ ?_).1
    · apply (keeps_report_holding _).bind
      intro _
      cases refused with
      | none => exact .pure created
      | some fault => exact .throw _
    · have grows := Contents.grows_insert (Schema.nodup_distinctTags tags) stored grown
      refine ⟨sound.of_grows rfl rfl grows, ?_⟩
      rw [grown]
      exact List.subset_append_right _ _

theorem keeps_compile {filter : Filter} (fits : Signature → TagId → Prop) :
    Action.Keeps (BoundedCache.OnlyHolds fits loaded)
      (filter.compile : Action Failure σ CompiledFilter) := by
  refine (Action.Keeps.ofExcept _).bind ?_
  intro _
  refine Action.Keeps.bind (.mapFault ?_) fun _ => .ofExcept _
  unfold Filter.resolve
  split
  · exact .pure _
  · exact BoundedCache.keeps_lookupMany fits loaded _

theorem keeps_resolve {tag : Tag} (fits : Signature → TagId → Prop) :
    Action.Keeps (BoundedCache.OnlyHolds fits loaded) (tag.resolve : Action Failure σ TagId) :=
  (Action.Keeps.ofExcept _).bind fun _ => .mapFault (BoundedCache.keeps_lookup fits loaded _)

theorem keeps_listEntities [RowShape α] (filter : Filter) (window : PageWindow) :
    Action.Keeps (store.Sound loaded) (listEntities filter window : Step σ ξ (Page α)) := by
  have compiles : Action.Keeps (store.Sound loaded)
      (compileFilter filter : Step σ ξ CompiledFilter) :=
    (keeps_withCache keeps_compile).bind fun _ => (keeps_report _).bind fun _ =>
      (keeps_report _).bind fun _ => .pure _
  refine compiles.bind fun compiled => .get_bind fun catalog sound => ?_
  rw [sound.schema_eq]
  refine keeps_queryPage (.of_contents_eq fun bound executor binds => ?_) catalog sound
  exact store.listEntities executor binds

theorem keeps_listTags (search : Tag) (window : PageWindow) :
    Action.Keeps (store.Sound loaded) (listTags search window : Step σ ξ (Page TagUsage)) := by
  refine .get_bind ?_
  intro catalog sound
  rw [sound.schema_eq]
  refine keeps_queryPage (.of_contents_eq fun bound executor binds => ?_) catalog sound
  exact store.listTags executor binds

theorem keeps_entityTags (entity : Int64) :
    Action.Keeps (store.Sound loaded) (entityTags entity : Step σ ξ (List TagUsage)) := by
  refine .get_bind ?_
  intro catalog sound
  rw [sound.schema_eq]
  refine keeps_query (.of_contents_eq fun bound executor binds => ?_) catalog sound
  exact store.listEntityTags executor binds

private theorem keeps_write_attach (entity : Int64) (id : TagId) :
    Action.Keeps (store.Sound loaded) (write (schema.attach entity id) : Step σ ξ UInt64) := by
  apply keeps_write
  intro bound executor binds
  obtain ⟨after, ran, grown⟩ := store.attach executor binds
  exact ⟨_, after, ran, by rw [grown, Contents.attach_tags]⟩

private theorem keeps_write_detach (entity : Int64) (id : TagId) :
    Action.Keeps (store.Sound loaded) (write (schema.detach entity id) : Step σ ξ UInt64) := by
  apply keeps_write
  intro bound executor binds
  obtain ⟨after, ran, grown⟩ := store.detach executor binds
  exact ⟨_, after, ran, by rw [grown]; rfl⟩

theorem keeps_addTag (entity : Int64) (tag : Tag) :
    Action.Keeps (store.Sound loaded) (addTag entity tag : Step σ ξ Bool) := by
  refine .get_bind ?_
  intro catalog sound
  rw [sound.schema_eq]
  have resolves : Action.Keeps (store.Sound loaded)
      (withCache (schema.attachKnown entity tag) : Step σ ξ Prepared) :=
    keeps_withCache fun fits => (keeps_resolve fits).bind fun _ => .pure _
  have known (before : Catalog σ ξ) (prepared : Prepared) (after : Catalog σ ξ)
      (ran : (withCache (schema.attachKnown entity tag)).runFrom before = (.ok prepared, after)) :
      ∃ id, prepared = schema.attach entity id := by
    rw [withCache, Action.runFrom_onPart, Prod.mk.injEq] at ran
    exact Schema.of_attachKnown_ok ran.1
  refine resolves.bind_knowing known (fun prepared attaching => ?_) catalog sound
  obtain ⟨id, rfl⟩ := attaching
  exact (keeps_write_attach entity id).bind fun _ => .pure _

theorem keeps_removeTag (entity : Int64) (tag : Tag) :
    Action.Keeps (store.Sound loaded) (removeTag entity tag : Step σ ξ Bool) := by
  refine .get_bind ?_
  intro catalog sound
  rw [sound.schema_eq]
  have resolves : Action.Keeps (store.Sound loaded)
      ((withCache (schema.detachKnown entity tag)).attempt : Step σ ξ (Except Failure Prepared)) :=
    .attempt (keeps_withCache fun fits => (keeps_resolve fits).bind fun _ => .pure _)
  have known (before : Catalog σ ξ) (result : Except Failure Prepared) (after : Catalog σ ξ)
      (ran : ((withCache (schema.detachKnown entity tag)).attempt : Step σ ξ _).runFrom before =
        (.ok result, after)) : ∀ prepared, result = .ok prepared →
      ∃ id, prepared = schema.detach entity id := by
    rintro prepared rfl
    rw [Action.runFrom_attempt, Prod.mk.injEq, Except.ok.injEq, withCache,
      Action.runFrom_onPart] at ran
    exact Schema.of_detachKnown_ok ran.1
  refine resolves.bind_knowing known (fun result detaching => ?_) catalog sound
  cases result with
  | ok prepared =>
    obtain ⟨id, rfl⟩ := detaching prepared rfl
    exact (keeps_write_detach entity id).bind fun _ => .pure _
  | error failure =>
    by_cases unknown : failure.isUnknownTag
    · simp only [unknown, ↓reduceIte]
      exact .pure false
    · simp only [unknown]
      exact .throw failure

theorem keeps_attachTag (entity : Int64) (raw : String) (type : TagKind) :
    Action.Keeps (store.Sound loaded) (attachTag entity raw type : Step σ ξ Bool) := by
  have asks : Action.Keeps (store.Sound loaded) (((IdCache.lookup (Tag.parse raw).signature).onPart
      Catalog.cache fun catalog cache => { catalog with cache }).attempt :
        Step σ ξ (Except CacheFault TagId)) :=
    .attempt (keeps_onPart_cache fun fits => BoundedCache.keeps_lookup fits loaded _)
  apply asks.bind
  intro known
  have adds : Action.Keeps (store.Sound loaded) (addTag entity (Tag.parse raw) : Step σ ξ Bool) :=
    keeps_addTag entity _
  cases known with
  | ok id => exact adds
  | error fault =>
    cases fault with
    | notFound signature =>
      dsimp only
      exact (keeps_createTags _).discard.bind fun _ => adds
    | unavailable reason =>
      dsimp only
      exact (Action.Keeps.throw _).bind fun _ => adds
    | notReady =>
      dsimp only
      exact (Action.Keeps.throw _).bind fun _ => adds
    | invalidEntry key value =>
      dsimp only
      exact (Action.Keeps.throw _).bind fun _ => adds

end Catalog

end TagQuery
