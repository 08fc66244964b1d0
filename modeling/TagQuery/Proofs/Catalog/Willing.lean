import TagQuery.Proofs.Catalog.Sound
import TagQuery.Proofs.IdCache.Stored

/-! What adding and creating a tag come to when the cache refuses nothing. -/

namespace TagQuery

namespace SharedCache

variable {σ : Type} [KeyValueStore σ] [HonestStore σ] {cache : SharedCache σ}

/-- The cache answers whatever it is asked next. -/
def Willing (cache : SharedCache σ) : Prop :=
  cache.ready = true ∧ HonestStore.Willing cache.store

/-- What a willing cache knows is not touched by looking it up. -/
theorem runFrom_lookup_of_willing (willing : cache.Willing) (signature : Signature) :
    ∃ store, (IdCache.lookup signature).runFrom cache =
        (match cache.text? signature with
          | some text => readId (cache.entryKey signature) text
          | none => .error (.notFound signature), { cache with store }) ∧
      HonestStore.Willing store ∧ TextStore.text? store = TextStore.text? cache.store := by
  obtain ⟨ready, calm⟩ := willing
  obtain ⟨answer, store, ran, still⟩ := HonestStore.get_of_willing (cache.entryKey signature) calm
  have same := HonestStore.keeps_get _ (cache.entryKey signature) cache.store rfl
  rw [ran] at same
  refine ⟨store, ?_, still, same⟩
  rw [runFrom_lookup_store, if_pos ready, ran, text?, ← HonestStore.answer_of_get ran]
  cases answer <;> rfl

theorem runFrom_record_of_willing (willing : HonestStore.Willing cache.store) (signature : Signature)
    (id : TagId) : ∃ store, (IdCache.record signature id).runFrom cache =
        (.ok (), { cache with store }) ∧ HonestStore.Willing store ∧
      TextStore.text? store (cache.entryKey signature) = some id.text := by
  obtain ⟨store, ran, still⟩ :=
    HonestStore.set_of_willing (cache.entryKey signature) id.text willing
  refine ⟨store, ?_, still, HonestStore.text?_of_set ran⟩
  rw [runFrom_record_store, ran]
  rfl

end SharedCache

theorem Tag.runFrom_resolve {σ : Type} [IdCache σ] {tag : Tag} (checked : tag.check = .ok ())
    (cache : σ) : tag.resolve.runFrom cache =
      (((IdCache.lookup tag.signature).runFrom cache).1.mapError .ofCache,
        ((IdCache.lookup tag.signature).runFrom cache).2) := by
  have passed : (Action.ofExcept (tag.check.mapError .ofQuery) : Action Failure σ Unit).runFrom cache =
      (.ok (), cache) := by
    rw [checked]
    rfl
  unfold resolve
  rw [Action.runFrom_bind_of_ok passed]
  rfl

namespace Catalog

section Adding

variable {σ ξ : Type} [IdCache σ] [Executor ξ] {catalog : Catalog σ ξ} {cache : σ} {entity : Int64}
  {tag : Tag}

theorem runFrom_addTag_of_ok {id : TagId} (checked : tag.check = .ok ())
    (asked : (IdCache.lookup tag.signature).runFrom catalog.cache = (.ok id, cache)) :
    (addTag entity tag).runFrom catalog =
      ((write (catalog.schema.attach entity id) >>= fun count => pure (decide (0 < count))) :
        Step σ ξ Bool).runFrom { catalog with cache } := by
  have made : (withCache (catalog.schema.attachKnown entity tag) : Step σ ξ Prepared).runFrom catalog =
      (.ok (catalog.schema.attach entity id), { catalog with cache }) := by
    rw [withCache, Action.runFrom_onPart]
    unfold Schema.attachKnown
    rw [Action.runFrom_bind, Tag.runFrom_resolve checked, asked]
    rfl
  unfold addTag
  rw [Action.runFrom_bind_of_ok (Action.runFrom_get catalog), Action.runFrom_bind_of_ok made]

theorem runFrom_addTag_of_error {fault : CacheFault} (checked : tag.check = .ok ())
    (asked : (IdCache.lookup tag.signature).runFrom catalog.cache = (.error fault, cache)) :
    (addTag entity tag).runFrom catalog = (.error (.ofCache fault), { catalog with cache }) := by
  have made : (withCache (catalog.schema.attachKnown entity tag) : Step σ ξ Prepared).runFrom catalog =
      (.error (.ofCache fault), { catalog with cache }) := by
    rw [withCache, Action.runFrom_onPart]
    unfold Schema.attachKnown
    rw [Action.runFrom_bind, Tag.runFrom_resolve checked, asked]
    rfl
  unfold addTag
  rw [Action.runFrom_bind_of_ok (Action.runFrom_get catalog), Action.runFrom_bind_of_error made]

/-- New tags are stored, and a cache that takes all of them lets the call succeed. -/
theorem runFrom_createTags_of_taken {drafts : List TagDraft} {created : List StoredTag}
    {middle after : Catalog σ ξ} (valid : ∀ draft ∈ drafts, draft.tag.check = .ok ())
    (filled : drafts ≠ [])
    (ran : (query (catalog.schema.insertTags (Schema.distinctTags drafts)) :
      Step σ ξ (List StoredTag)).runFrom catalog = (.ok created, middle))
    (offered : (recordAll created : Step σ ξ _).runFrom middle = (.ok none, after)) :
    (createTags drafts).runFrom catalog = (.ok created,
      { after with events := after.events ++ [.tagsCreated (amount created.length)] }) := by
  have made : (Action.ofExcept ((catalog.schema.createTags drafts).mapError .ofQuery) :
      Step σ ξ (Option Prepared)).runFrom catalog =
        (.ok (some (catalog.schema.insertTags (Schema.distinctTags drafts))), catalog) := by
    rw [Schema.createTags_of_valid valid, if_neg filled]
    rfl
  unfold createTags
  rw [Action.runFrom_bind_of_ok (Action.runFrom_get catalog), Action.runFrom_bind_of_ok made]
  dsimp only
  rw [Action.runFrom_bind_of_ok ran, Action.runFrom_bind_of_ok offered,
    Action.runFrom_bind_of_ok (runFrom_report _ _)]
  rfl

omit [Executor ξ] in
theorem runFrom_recordAll_singleton (catalog : Catalog σ ξ) {record : StoredTag}
    (ran : (IdCache.record record.signature record.id).runFrom catalog.cache = (.ok (), cache)) :
    (recordAll [record] : Step σ ξ (Option CacheFault)).runFrom catalog =
      (.ok none, { catalog with cache }) := by
  have offered : (((IdCache.record record.signature record.id).onPart Catalog.cache
      fun catalog cache => { catalog with cache }).attempt :
        Step σ ξ (Except CacheFault Unit)).runFrom catalog =
          (.ok (.ok ()), { catalog with cache }) := by
    rw [Action.runFrom_attempt, Action.runFrom_onPart, ran]
  unfold recordAll
  rw [List.foldlM_cons, Action.runFrom_bind, Action.runFrom_bind_of_ok offered]
  rfl

variable {raw : String} {type : TagKind}

theorem runFrom_attachTag_of_ok {id : TagId}
    (asked : (IdCache.lookup (Tag.parse raw).signature).runFrom catalog.cache = (.ok id, cache)) :
    (attachTag entity raw type).runFrom catalog =
      (addTag entity (Tag.parse raw)).runFrom { catalog with cache } := by
  have known : (((IdCache.lookup (Tag.parse raw).signature).onPart Catalog.cache
      fun catalog cache => { catalog with cache }).attempt :
        Step σ ξ (Except CacheFault TagId)).runFrom catalog =
          (.ok (.ok id), { catalog with cache }) := by
    rw [Action.runFrom_attempt, Action.runFrom_onPart, asked]
  unfold attachTag
  rw [Action.runFrom_bind_of_ok known]

theorem runFrom_attachTag_of_notFound {name : Signature} {records : List StoredTag}
    {after : Catalog σ ξ}
    (asked : (IdCache.lookup (Tag.parse raw).signature).runFrom catalog.cache =
      (.error (.notFound name), cache))
    (created : (createTags [{ tag := Tag.parse raw, type }]).runFrom { catalog with cache } =
      (.ok records, after)) :
    (attachTag entity raw type).runFrom catalog =
      (addTag entity (Tag.parse raw)).runFrom after := by
  have known : (((IdCache.lookup (Tag.parse raw).signature).onPart Catalog.cache
      fun catalog cache => { catalog with cache }).attempt :
        Step σ ξ (Except CacheFault TagId)).runFrom catalog =
          (.ok (.error (.notFound name)), { catalog with cache }) := by
    rw [Action.runFrom_attempt, Action.runFrom_onPart, asked]
  have done : (discard (createTags [{ tag := Tag.parse raw, type }]) : Step σ ξ PUnit).runFrom
      { catalog with cache } = (.ok ⟨⟩, after) := by
    rw [Action.runFrom_discard, created]
    rfl
  unfold attachTag
  rw [Action.runFrom_bind_of_ok known]
  dsimp only
  rw [Action.runFrom_bind_of_ok done]

end Adding

variable {σ ξ : Type} [KeyValueStore σ] [HonestStore σ] [Executor ξ] {schema : Schema}
  {store : TagStore schema ξ} {loaded : Bool} {catalog : Catalog (SharedCache σ) ξ}
  {tag : Tag}

/-- A stored tag that a willing cache knows is attached. -/
theorem addTag_of_known (sound : store.Sound loaded catalog) (willing : catalog.cache.Willing)
    (entity : Int64) (checked : tag.check = .ok ()) {record : StoredTag}
    (member : record ∈ (store.contents catalog.executor).tags)
    (same : record.signature = tag.signature)
    (known : catalog.cache.text? tag.signature = some record.id.text) :
    ∃ new after, (addTag entity tag).runFrom catalog = (.ok new, after) ∧
      (store.contents after.executor).CarriesSome entity fun record =>
        record.signature = tag.signature := by
  obtain rfl := sound.schema_eq
  obtain ⟨texts, asked, _, _⟩ := SharedCache.runFrom_lookup_of_willing willing tag.signature
  rw [known] at asked
  simp only [SharedCache.readId_text] at asked
  obtain ⟨bound, binds, _⟩ := Schema.bindsInOrder_attach catalog.schema_checked
    catalog.schema.dialect entity record.id
  obtain ⟨executor, ran, attached⟩ := store.attach catalog.executor binds
  have wrote := runFrom_write { catalog with cache := { catalog.cache with store := texts } } binds ran
  rw [runFrom_addTag_of_ok checked asked, Action.runFrom_bind_of_ok wrote]
  refine ⟨_, _, rfl, record, ?_, same, ?_⟩
  · rw [attached, Contents.attach_tags]
    exact member
  · rw [attached]
    exact Contents.carries_attach _ entity record.id

/-- A tag that a willing cache does not know is refused. -/
theorem addTag_of_unknown (willing : catalog.cache.Willing) (entity : Int64)
    (checked : tag.check = .ok ())
    (unknown : catalog.cache.text? tag.signature = none) :
    ∃ after, (addTag entity tag).runFrom catalog =
        (.error (.ofQuery (.unknownTag tag.signature)), after) ∧
      after.executor = catalog.executor := by
  obtain ⟨texts, asked, _, _⟩ := SharedCache.runFrom_lookup_of_willing willing tag.signature
  rw [unknown] at asked
  exact ⟨_, runFrom_addTag_of_error checked asked, rfl⟩

/-- Creating one tag that is stored already changes nothing. -/
theorem createTags_of_stored (sound : store.Sound loaded catalog) (type : TagKind)
    (checked : tag.check = .ok ())
    (stored : tag.signature ∈ (store.contents catalog.executor).signatures) :
    ∃ after, (createTags [{ tag, type }]).runFrom catalog = (.ok [], after) ∧
      after.cache = catalog.cache ∧
      store.contents after.executor = store.contents catalog.executor := by
  have valid : ∀ draft ∈ [TagDraft.mk tag type], draft.tag.check = .ok () := by
    simpa using checked
  obtain ⟨created, executor, ran, new, grown⟩ :=
    runFrom_query_insertTags sound valid (List.nodup_singleton _)
  have none : created = [] := by
    simpa [stored] using new
  subst none
  rw [← sound.schema_eq] at ran
  rw [runFrom_createTags_of_taken valid (List.cons_ne_nil _ _) ran rfl]
  exact ⟨_, rfl, rfl, by simpa using grown⟩

/-- Creating one tag that is not stored stores it and has a willing cache know it. -/
theorem createTags_of_unstored (sound : store.Sound loaded catalog)
    (willing : catalog.cache.Willing) (type : TagKind) (checked : tag.check = .ok ())
    (unstored : tag.signature ∉ (store.contents catalog.executor).signatures) :
    ∃ record after, (createTags [{ tag, type }]).runFrom catalog = (.ok [record], after) ∧
      record.signature = tag.signature ∧ after.cache.Willing ∧
      after.cache.text? tag.signature = some record.id.text ∧
      store.contents after.executor = { store.contents catalog.executor with
        tags := (store.contents catalog.executor).tags ++ [record] } := by
  have valid : ∀ draft ∈ [TagDraft.mk tag type], draft.tag.check = .ok () := by
    simpa using checked
  obtain ⟨created, executor, ran, new, grown⟩ :=
    runFrom_query_insertTags sound valid (List.nodup_singleton _)
  obtain ⟨record, rfl, same⟩ : ∃ record, created = [record] ∧ record.draft = ⟨tag, type⟩ := by
    simpa [unstored] using new
  have signature : record.signature = tag.signature :=
    congrArg (fun draft => draft.tag.signature) same
  obtain ⟨texts, recorded, still, text⟩ :=
    SharedCache.runFrom_record_of_willing willing.2 record.signature record.id
  rw [← sound.schema_eq] at ran
  have offered := runFrom_recordAll_singleton { catalog with
    executor, events := catalog.events ++ [.queried (amount [record].length)] } recorded
  rw [runFrom_createTags_of_taken valid (List.cons_ne_nil _ _) ran offered]
  refine ⟨record, _, rfl, signature, ⟨willing.1, still⟩, ?_, grown⟩
  rw [← signature]
  exact text

end Catalog

end TagQuery
