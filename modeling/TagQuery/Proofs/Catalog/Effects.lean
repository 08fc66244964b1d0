import TagQuery.Proofs.Catalog.Provenance
import TagQuery.Proofs.IdCache.Reliable
import TagQuery.Proofs.Tag.Parse

/-! What commands do to a store that never fails, when the cache knows every stored tag. -/

namespace TagQuery

/-- The tags of a command pass the check; raw text is parsed and needs none. -/
def Command.Valid : Command → Prop
  | .loadCache => True
  | .createTags drafts => ∀ draft ∈ drafts, draft.tag.check = .ok ()
  | .addTag _ tag => tag.check = .ok ()
  | .removeTag _ tag => tag.check = .ok ()
  | .attachTag _ _ _ => True

instance : DecidablePred Command.Valid
  | .loadCache => inferInstanceAs (Decidable True)
  | .createTags drafts => inferInstanceAs (Decidable (∀ draft ∈ drafts, draft.tag.check = .ok ()))
  | .addTag _ tag => inferInstanceAs (Decidable (tag.check = .ok ()))
  | .removeTag _ tag => inferInstanceAs (Decidable (tag.check = .ok ()))
  | .attachTag _ _ _ => inferInstanceAs (Decidable True)

/-- What a command answers on contents, and what it makes of them. -/
inductive Command.Does : Contents → Command → Except Failure Reply → Contents → Prop
  | loadCache {contents : Contents} :
    Does contents .loadCache (.ok (.counted contents.tags.length)) contents
  | createTags {contents : Contents} {drafts : List TagDraft} {created : List StoredTag} :
    (created.map StoredTag.draft).Perm ((Schema.distinctTags drafts).filter fun draft =>
      draft.tag.signature ∉ contents.signatures) →
      Does contents (.createTags drafts) (.ok (.created created))
        { contents with tags := contents.tags ++ created }
  | addTag {contents : Contents} {entity : Int64} {tag : Tag} {id : TagId} :
    contents.Identifies tag id →
      Does contents (.addTag entity tag) (.ok (.changed (0 < contents.added entity id)))
        (contents.attach entity id)
  | addUnknown {contents : Contents} {entity : Int64} {tag : Tag} :
    (∀ id, ¬ contents.Identifies tag id) →
      Does contents (.addTag entity tag) (.error (.ofQuery (.unknownTag tag.signature))) contents
  | removeTag {contents : Contents} {entity : Int64} {tag : Tag} {id : TagId} :
    contents.Identifies tag id →
      Does contents (.removeTag entity tag) (.ok (.changed (0 < contents.removed entity id)))
        (contents.detach entity id)
  | removeUnknown {contents : Contents} {entity : Int64} {tag : Tag} :
    (∀ id, ¬ contents.Identifies tag id) →
      Does contents (.removeTag entity tag) (.ok (.changed false)) contents
  | attachTag {contents middle after : Contents} {entity : Int64} {raw : String} {type : TagKind}
    {created : List StoredTag} {result : Except Failure Reply} :
    (Tag.parse raw).check = .ok () →
    Does contents (.createTags [⟨Tag.parse raw, type⟩]) (.ok (.created created)) middle →
    Does middle (.addTag entity (Tag.parse raw)) result after →
      Does contents (.attachTag entity raw type) result after
  | attachInvalid {contents : Contents} {entity : Int64} {raw : String} {type : TagKind}
    {fault : QueryFault} : (Tag.parse raw).check = .error fault →
      Does contents (.attachTag entity raw type) (.error (.ofQuery fault)) contents

theorem Contents.mem_signatures_iff {contents : Contents} (kept : contents.WellKept) {tag : Tag}
    (checked : tag.check = .ok ()) :
    tag.signature ∈ contents.signatures ↔ ∃ id, contents.Identifies tag id := by
  constructor
  · intro member
    obtain ⟨record, inside, same⟩ := List.mem_map.mp member
    exact ⟨record.id, Names.identifies kept ((Tag.check_ok_iff tag).mp checked).2.1
      ⟨record, inside, same, rfl⟩⟩
  · rintro ⟨id, record, inside, rfl, _⟩
    exact List.mem_map_of_mem inside

namespace Catalog

section Answering

variable {σ ξ : Type} [Executor ξ] {catalog : Catalog σ ξ} {prepared : Prepared}

/-- A query that is bound, answered and read has that answer. -/
theorem Queried.of_answered {α : Type} {read : List Row → Except StorageFault α} {size : α → Nat}
    {ended : Except Failure α × Catalog σ ξ} {bound : PositionalStatement} {rows : List Row}
    {answer : α} {executor : ξ} (queried : catalog.Queried prepared read size ended)
    (binds : prepared.Binds catalog.schema.dialect bound)
    (ran : (Executor.query bound).runFrom catalog.executor = (.ok rows, executor))
    (reads : read rows = .ok answer) :
    ended = (.ok answer, { catalog with
      executor, events := catalog.events ++ [.queried (amount (size answer))] }) := by
  rw [queried.eq_of_binds binds, ran]
  dsimp only
  rw [reads]

/-- A write that is bound and done touches what it is said to. -/
theorem Written.of_done {ended : Except Failure UInt64 × Catalog σ ξ}
    {bound : PositionalStatement} {count : UInt64} {executor : ξ}
    (written : catalog.Written prepared ended)
    (binds : prepared.Binds catalog.schema.dialect bound)
    (ran : (Executor.execute bound).runFrom catalog.executor = (.ok count, executor)) :
    ended = (.ok count, { catalog with
      executor, events := catalog.events ++ [.wrote count] }) := by
  rw [written.eq_of_binds binds, ran]

end Answering

/-- Offered records are all taken and written over the entries of before. -/
theorem offerAll_of_reliable {σ : Type} [IdCache σ] [ReliableCache σ] (records : List StoredTag)
    (cache : σ) :
    (offerAll records cache).1 = none ∧
      (ReliableCache.Loaded cache → ReliableCache.Loaded (offerAll records cache).2) ∧
      EntryCache.entry? (offerAll records cache).2 = writtenOver (EntryCache.entry? cache)
        (records.map fun record => (record.signature, record.id)) := by
  unfold offerAll
  induction records generalizing cache with
  | nil => exact ⟨rfl, fun loaded => loaded, rfl⟩
  | cons record rest ih =>
    obtain ⟨after, ran, loads, entries⟩ :=
      ReliableCache.records cache record.signature record.id
    obtain ⟨taken, loads', entries'⟩ := ih after
    rw [List.foldl_cons, List.map_cons, writtenOver_cons, ← entries]
    dsimp only
    rw [ran]
    exact ⟨taken, fun loaded => loads' (loads loaded), entries'⟩

end Catalog

variable {σ ξ : Type} [IdCache σ] [ReliableCache σ] [Executor ξ] {schema : Schema}

/-- A catalog on a well kept store whose cache is loaded and knows every stored tag. -/
structure TagStore.Mirrored (store : TagStore schema ξ) (catalog : Catalog σ ξ) : Prop where
  sound : store.ledger.Sound catalog
  loaded : ReliableCache.Loaded catalog.cache
  known : ∀ record ∈ (store.contents catalog.executor).tags,
    EntryCache.entry? catalog.cache record.signature = some record.id

namespace TagStore.Mirrored

variable {store : TagStore schema ξ} {catalog middle after : Catalog σ ξ} {tag : Tag}

/-- A mirroring cache answers as the store has it. -/
theorem lookup_cases (mirrored : store.Mirrored catalog) (plain : ':' ∉ tag.key.toList) :
    (∃ id, (store.contents catalog.executor).Identifies tag id ∧
      (IdCache.lookup tag.signature).runFrom catalog.cache = (.ok id, catalog.cache)) ∨
    ((∀ id, ¬ (store.contents catalog.executor).Identifies tag id) ∧
      (IdCache.lookup tag.signature).runFrom catalog.cache =
        (.error (.notFound tag.signature), catalog.cache)) := by
  have ran := ReliableCache.runFrom_lookup tag.signature mirrored.loaded mirrored.sound.cached
  cases held : EntryCache.entry? catalog.cache tag.signature with
  | some id =>
    rw [held] at ran
    have named := TruthfulCache.fits_of_entry? mirrored.sound.cached held
    exact .inl ⟨id, named.identifies mirrored.sound.wellKept plain, ran⟩
  | none =>
    rw [held] at ran
    refine .inr ⟨?_, ran⟩
    rintro id ⟨record, member, rfl, _⟩
    have known := mirrored.known record member
    rw [StoredTag.signature, held] at known
    cases known

theorem resolved_cases (mirrored : store.Mirrored catalog) (checked : tag.check = .ok ())
    {ended : Except Failure TagId × Catalog σ ξ} (resolved : catalog.Resolved tag ended) :
    (∃ id, (store.contents catalog.executor).Identifies tag id ∧ ended = (.ok id, catalog)) ∨
    ((∀ id, ¬ (store.contents catalog.executor).Identifies tag id) ∧
      ended = (.error (.ofQuery (.unknownTag tag.signature)), catalog)) := by
  have plain := ((Tag.check_ok_iff tag).mp checked).2.1
  cases resolved with
  | invalid refused =>
    rw [checked] at refused
    cases refused
  | unknown _ asked =>
    rcases mirrored.lookup_cases plain with ⟨id, _, ran⟩ | ⟨missing, ran⟩
    · rw [asked] at ran
      cases ran
    · rw [asked] at ran
      cases ran
      exact .inr ⟨missing, rfl⟩
  | known _ asked =>
    rcases mirrored.lookup_cases plain with ⟨id, identifies, ran⟩ | ⟨_, ran⟩
    · rw [asked] at ran
      cases ran
      exact .inl ⟨_, identifies, rfl⟩
    · rw [asked] at ran
      cases ran

/-- The same cache mirrors other contents with the same tags. -/
theorem of_tags_eq (mirrored : store.Mirrored catalog) (sound : store.ledger.Sound after)
    (cache : after.cache = catalog.cache)
    (same : (store.contents after.executor).tags = (store.contents catalog.executor).tags) :
    store.Mirrored after where
  sound := sound
  loaded := cache ▸ mirrored.loaded
  known := by
    rw [cache, same]
    exact mirrored.known

variable {entity : Int64} {id : TagId}

theorem written_attach (mirrored : store.Mirrored catalog)
    {ended : Except Failure UInt64 × Catalog σ ξ}
    (written : catalog.Written (catalog.schema.attach entity id) ended) :
    ∃ executor events, ended = (.ok ((store.contents catalog.executor).added entity id),
        { catalog with executor, events }) ∧
      store.contents executor = (store.contents catalog.executor).attach entity id := by
  obtain rfl : catalog.schema = schema := mirrored.sound.served
  obtain ⟨bound, binds, _⟩ := Schema.bindsInOrder_attach catalog.schema_checked
    catalog.schema.dialect entity id
  obtain ⟨executor, ran, attached⟩ := store.attach catalog.executor binds
  exact ⟨executor, _, written.of_done binds ran, attached⟩

theorem written_detach (mirrored : store.Mirrored catalog)
    {ended : Except Failure UInt64 × Catalog σ ξ}
    (written : catalog.Written (catalog.schema.detach entity id) ended) :
    ∃ executor events, ended = (.ok ((store.contents catalog.executor).removed entity id),
        { catalog with executor, events }) ∧
      store.contents executor = (store.contents catalog.executor).detach entity id := by
  obtain rfl : catalog.schema = schema := mirrored.sound.served
  obtain ⟨bound, binds, _⟩ := Schema.bindsInOrder_detach catalog.schema_checked
    catalog.schema.dialect entity id
  obtain ⟨executor, ran, detached⟩ := store.detach catalog.executor binds
  exact ⟨executor, _, written.of_done binds ran, detached⟩

variable {ended : Except Failure Bool × Catalog σ ξ}

theorem does_added (mirrored : store.Mirrored catalog) (checked : tag.check = .ok ())
    (added : catalog.Added entity tag ended) :
    (Command.addTag entity tag).Does (store.contents catalog.executor) (ended.1.map .changed)
        (store.contents ended.2.executor) ∧ store.Mirrored ended.2 := by
  have sound := (TagLedger.Follows.of_added mirrored.sound added).sound
  cases added with
  | unresolved resolved =>
    rcases mirrored.resolved_cases checked resolved with ⟨_, _, same⟩ | ⟨missing, same⟩
    · cases same
    · cases same
      exact ⟨.addUnknown missing, mirrored⟩
  | unwritten resolved written =>
    rcases mirrored.resolved_cases checked resolved with ⟨_, _, same⟩ | ⟨_, same⟩
    · cases same
      obtain ⟨_, _, done, _⟩ := mirrored.written_attach written
      cases done
    · cases same
  | written resolved written =>
    rcases mirrored.resolved_cases checked resolved with ⟨_, identifies, same⟩ | ⟨_, same⟩
    · cases same
      obtain ⟨executor, _, done, attached⟩ := mirrored.written_attach written
      cases done
      refine ⟨?_, mirrored.of_tags_eq sound rfl ?_⟩
      · rw [attached]
        exact .addTag identifies
      · rw [attached, Contents.attach_tags]
    · cases same

theorem does_removed (mirrored : store.Mirrored catalog) (checked : tag.check = .ok ())
    (removed : catalog.Removed entity tag ended) :
    (Command.removeTag entity tag).Does (store.contents catalog.executor) (ended.1.map .changed)
        (store.contents ended.2.executor) ∧ store.Mirrored ended.2 := by
  have sound := (TagLedger.Follows.of_removed mirrored.sound removed).sound
  cases removed with
  | unresolved resolved known =>
    rcases mirrored.resolved_cases checked resolved with ⟨_, _, same⟩ | ⟨_, same⟩
    · cases same
    · cases same
      cases known
  | unknown resolved _ =>
    rcases mirrored.resolved_cases checked resolved with ⟨_, _, same⟩ | ⟨missing, same⟩
    · cases same
    · cases same
      exact ⟨.removeUnknown missing, mirrored⟩
  | unwritten resolved written =>
    rcases mirrored.resolved_cases checked resolved with ⟨_, _, same⟩ | ⟨_, same⟩
    · cases same
      obtain ⟨_, _, done, _⟩ := mirrored.written_detach written
      cases done
    · cases same
  | written resolved written =>
    rcases mirrored.resolved_cases checked resolved with ⟨_, identifies, same⟩ | ⟨_, same⟩
    · cases same
      obtain ⟨executor, _, done, detached⟩ := mirrored.written_detach written
      cases done
      refine ⟨?_, mirrored.of_tags_eq sound rfl ?_⟩
      · rw [detached]
        exact .removeTag identifies
      · rw [detached]
        rfl
    · cases same

/-- A cache over whose entries those of new stored tags were written mirrors the store. -/
theorem of_written {before : List StoredTag} {records : List StoredTag}
    {old : Signature → Option TagId} (sound : store.ledger.Sound after)
    (loaded : ReliableCache.Loaded after.cache)
    (knew : ∀ record ∈ before, old record.signature = some record.id)
    (all : (before ++ records).Perm (store.contents after.executor).tags)
    (entries : EntryCache.entry? after.cache =
      writtenOver old (records.map fun record => (record.signature, record.id))) :
    store.Mirrored after := by
  have distinct : ((before ++ records).map StoredTag.signature).Nodup :=
    (all.map StoredTag.signature).nodup_iff.mpr sound.wellKept.distinct
  rw [List.map_append, List.nodup_append'] at distinct
  have names : (records.map fun record => (record.signature, record.id)).map Prod.fst =
      records.map StoredTag.signature := by
    rw [List.map_map]
    rfl
  refine ⟨sound, loaded, fun record member => ?_⟩
  rw [entries]
  rcases List.mem_append.mp (all.mem_iff.mpr member) with earlier | new
  · rw [writtenOver_of_not_mem, knew record earlier]
    rw [names]
    exact fun inside => distinct.2.2 (List.mem_map_of_mem earlier) inside
  · rw [← names] at distinct
    have entry : (record.signature, record.id) ∈
        records.map fun record => (record.signature, record.id) :=
      List.mem_map.mpr ⟨record, new, rfl⟩
    exact writtenOver_of_mem distinct.2.1 entry

theorem does_created (mirrored : store.Mirrored catalog) {drafts : List TagDraft}
    {ended : Except Failure (List StoredTag) × Catalog σ ξ}
    (valid : ∀ draft ∈ drafts, draft.tag.check = .ok ())
    (created : catalog.Created drafts ended) :
    (Command.createTags drafts).Does (store.contents catalog.executor) (ended.1.map .created)
        (store.contents ended.2.executor) ∧ store.Mirrored ended.2 := by
  have sound := (TagLedger.Follows.of_created mirrored.sound created).sound
  obtain rfl : catalog.schema = schema := mirrored.sound.served
  obtain ⟨bound, binds, _⟩ := Schema.bindsInOrder_insertTags catalog.schema_checked
    catalog.schema.dialect (Schema.distinctTags drafts)
  obtain ⟨rows, records, executor, ran, read, stored, grown⟩ := store.insert catalog.executor
    (fun draft member => valid draft (Schema.distinctTags_subset _ member))
    (Schema.nodup_distinctTags drafts) binds
  cases created with
  | invalid refused =>
    rw [Schema.createTags_of_valid valid] at refused
    cases refused
  | nothing empty =>
    subst empty
    have does : (Command.createTags []).Does (store.contents catalog.executor) (.ok (.created []))
        { store.contents catalog.executor with
          tags := (store.contents catalog.executor).tags ++ [] } := .createTags (.refl _)
    rw [List.append_nil] at does
    exact ⟨does, mirrored⟩
  | unstored _ queried =>
    cases queried.of_answered binds ran read
  | offered _ queried =>
    cases queried.of_answered binds ran read
    obtain ⟨taken, loads, entries⟩ := Catalog.offerAll_of_reliable records catalog.cache
    dsimp only at sound ⊢
    rw [taken, grown]
    refine ⟨.createTags stored, ?_⟩
    refine of_written sound (loads mirrored.loaded) mirrored.known ?_ entries
    dsimp only
    rw [grown]

theorem does_loaded {ended : Except Failure Nat × Catalog σ ξ} (sound : store.ledger.Sound catalog)
    (loaded : catalog.Loaded ended) :
    Command.loadCache.Does (store.contents catalog.executor) (ended.1.map .counted)
        (store.contents ended.2.executor) ∧ store.Mirrored ended.2 := by
  have sound' := (TagLedger.Follows.of_loaded sound loaded).sound
  obtain rfl : catalog.schema = schema := sound.served
  obtain ⟨bound, binds, _⟩ := Schema.bindsInOrder_listAllTags catalog.schema_checked
    catalog.schema.dialect
  obtain ⟨rows, records, executor, ran, read, all, same⟩ := store.listAll catalog.executor binds
  obtain ⟨cache, took, ready, entries⟩ := ReliableCache.loads catalog.cache
    (records.map fun record => (record.signature, record.id))
  cases loaded with
  | unread queried => cases queried.of_answered binds ran read
  | refused queried given =>
    cases queried.of_answered binds ran read
    rw [took] at given
    cases given
  | loaded queried given =>
    cases queried.of_answered binds ran read
    rw [took] at given
    cases given
    dsimp only at sound' ⊢
    rw [same]
    constructor
    · rw [all.length_eq]
      exact .loadCache
    · have every : ([] ++ records).Perm (store.contents executor).tags := by
        rw [same]
        exact all
      exact of_written sound' ready (fun _ member => absurd member List.not_mem_nil) every entries

/-- Creating a tag that is stored already does nothing. -/
private theorem does_createTags_of_identifies {contents : Contents}
    (identifies : contents.Identifies tag id) (type : TagKind) :
    (Command.createTags [⟨tag, type⟩]).Does contents (.ok (.created [])) contents := by
  obtain ⟨record, member, rfl, _⟩ := identifies
  have stored : record.tag.signature ∈ contents.signatures := List.mem_map_of_mem member
  have does : (Command.createTags [⟨record.tag, type⟩]).Does contents (.ok (.created []))
      { contents with tags := contents.tags ++ [] } := by
    refine .createTags (.of_eq ?_)
    simp [Schema.distinctTags, List.eraseDupsBy, List.eraseDupsBy.loop, stored]
  rwa [List.append_nil] at does

variable {raw : String} {type : TagKind}

theorem does_attached_of_identifies (mirrored : store.Mirrored catalog)
    (identifies : (store.contents catalog.executor).Identifies (Tag.parse raw) id)
    (added : catalog.Added entity (Tag.parse raw) ended) :
    (Command.attachTag entity raw type).Does (store.contents catalog.executor)
        (ended.1.map .changed) (store.contents ended.2.executor) ∧ store.Mirrored ended.2 := by
  have created := does_createTags_of_identifies identifies type
  obtain ⟨record, member, same, _⟩ := identifies
  have checked := mirrored.sound.wellKept.checked record member
  rw [same] at checked
  obtain ⟨does, mirrored'⟩ := mirrored.does_added checked added
  exact ⟨.attachTag checked created does, mirrored'⟩

theorem does_attached (mirrored : store.Mirrored catalog)
    (attached : catalog.Attached entity raw type ended) :
    (Command.attachTag entity raw type).Does (store.contents catalog.executor)
        (ended.1.map .changed) (store.contents ended.2.executor) ∧ store.Mirrored ended.2 := by
  rcases mirrored.lookup_cases (Tag.colon_not_mem_key_parse raw) with
    ⟨id, identifies, ran⟩ | ⟨_, ran⟩
  · cases attached with
    | known asked added =>
      cases asked.symm.trans ran
      exact mirrored.does_attached_of_identifies identifies added
    | refused asked _ => cases asked.symm.trans ran
    | uncreated asked _ => cases asked.symm.trans ran
    | created asked _ _ => cases asked.symm.trans ran
  · cases attached with
    | known asked _ => cases asked.symm.trans ran
    | refused asked other =>
      cases asked.symm.trans ran
      cases other
    | uncreated asked created =>
      cases asked.symm.trans ran
      cases checked : (Tag.parse raw).check with
      | ok =>
        have valid : ∀ draft ∈ [TagDraft.mk (Tag.parse raw) type], draft.tag.check = .ok () := by
          simpa using checked
        cases (mirrored.does_created valid created).1
      | error fault =>
        cases created.of_refused checked
        exact ⟨.attachInvalid checked, mirrored⟩
    | created asked created added =>
      cases asked.symm.trans ran
      obtain ⟨creates, middle⟩ := mirrored.does_created created.valid created
      have checked := created.valid _ (List.mem_singleton_self _)
      obtain ⟨does, mirrored'⟩ := middle.does_added checked added
      exact ⟨.attachTag checked creates does, mirrored'⟩

/-- Step by step, a valid command does what it is to do, and the cache still mirrors the store. -/
theorem does_perform (mirrored : store.Mirrored catalog) {command : Command}
    (valid : command.Valid) :
    command.Does (store.contents catalog.executor) (catalog.perform command).1
        (store.contents (catalog.perform command).2.executor) ∧
      store.Mirrored (catalog.perform command).2 := by
  cases command with
  | loadCache => exact does_loaded mirrored.sound catalog.loaded
  | createTags drafts => exact mirrored.does_created valid (catalog.created drafts)
  | addTag entity tag => exact mirrored.does_added valid (catalog.added entity tag)
  | removeTag entity tag => exact mirrored.does_removed valid (catalog.removed entity tag)
  | attachTag entity raw type => exact mirrored.does_attached (catalog.attached entity raw type)

end TagStore.Mirrored

end TagQuery
