import TagQuery.Catalog.Operations
import TagQuery.Proofs.Catalog.Run
import TagQuery.Proofs.Filter.Meaning
import TagQuery.Proofs.IdCache.Bounded

/-! A store that keeps tags and pairs and never fails, and what the catalogs on it keep true
of their caches. -/

namespace TagQuery

namespace Contents

def signatures (contents : Contents) : List Signature :=
  contents.tags.map StoredTag.signature

/-- The store gave the identifier to the tag with the signature. -/
def Names (contents : Contents) (signature : Signature) (id : TagId) : Prop :=
  ∃ record ∈ contents.tags, record.signature = signature ∧ record.id = id

def attach (contents : Contents) (entity : Int64) (id : TagId) : Contents :=
  if (entity, id) ∈ contents.pairs then contents
  else { contents with pairs := contents.pairs ++ [(entity, id)] }

def detach (contents : Contents) (entity : Int64) (id : TagId) : Contents :=
  { contents with pairs := contents.pairs.filter (· ≠ (entity, id)) }

/-- How many associations an attachment adds. -/
def added (contents : Contents) (entity : Int64) (id : TagId) : UInt64 :=
  if (entity, id) ∈ contents.pairs then 0 else 1

/-- How many associations a detachment takes away. -/
def removed (contents : Contents) (entity : Int64) (id : TagId) : UInt64 :=
  if (entity, id) ∈ contents.pairs then 1 else 0

/-- Tags were added, and no signature twice. -/
structure Grows (before after : Contents) : Prop where
  kept : before.tags ⊆ after.tags
  distinct : before.signatures.Nodup → after.signatures.Nodup

theorem Grows.of_tags_eq {before after : Contents} (same : after.tags = before.tags) :
    before.Grows after where
  kept := same ▸ List.Subset.refl _
  distinct held := by rwa [signatures, same]

theorem Grows.trans {before middle after : Contents} (first : before.Grows middle)
    (second : middle.Grows after) : before.Grows after where
  kept := List.Subset.trans first.kept second.kept
  distinct held := second.distinct (first.distinct held)

theorem Grows.names {before after : Contents} (grows : before.Grows after)
    (signature : Signature) (id : TagId) (named : before.Names signature id) :
    after.Names signature id := by
  obtain ⟨record, member, same⟩ := named
  exact ⟨record, grows.kept member, same⟩

@[simp] theorem attach_tags (contents : Contents) (entity : Int64) (id : TagId) :
    (contents.attach entity id).tags = contents.tags := by
  unfold attach
  split <;> rfl

theorem carries_attach (contents : Contents) (entity : Int64) (id : TagId) :
    (contents.attach entity id).Carries entity id := by
  unfold attach Carries
  split
  · assumption
  · exact List.mem_append_right _ (List.mem_singleton_self _)

end Contents

/-- What a tag was stored for. -/
def StoredTag.draft (record : StoredTag) : TagDraft := ⟨record.tag, record.type⟩

/-- A store that never fails: an insert stores the tags whose signatures it does not have
and returns their rows, and an association is added or taken away once. -/
structure TagStore (schema : Schema) (ξ : Type) [Executor ξ] where
  contents : ξ → Contents
  insert (executor : ξ) {drafts : List TagDraft} {bound : PositionalStatement} :
    (∀ draft ∈ drafts, draft.tag.check = .ok ()) →
    (drafts.map fun draft => draft.tag.signature).Nodup →
    (schema.insertTags drafts).Binds schema.dialect bound →
    ∃ rows created after, (Executor.query bound).runFrom executor = (.ok rows, after) ∧
      rows.mapM readRow = .ok created ∧
      (created.map StoredTag.draft).Perm (drafts.filter fun draft =>
        draft.tag.signature ∉ (contents executor).signatures) ∧
      contents after = { contents executor with tags := (contents executor).tags ++ created }
  listAll (executor : ξ) {bound : PositionalStatement} :
    schema.listAllTags.Binds schema.dialect bound →
    ∃ rows records after, (Executor.query bound).runFrom executor = (.ok rows, after) ∧
      rows.mapM readRow = .ok records ∧ records.Perm (contents executor).tags ∧
      contents after = contents executor
  listEntities (executor : ξ) {compiled : CompiledFilter} {window : PageWindow}
    {bound : PositionalStatement} :
    (schema.listEntities compiled window).Binds schema.dialect bound →
    ∃ rows after, (Executor.query bound).runFrom executor = (.ok rows, after) ∧
      contents after = contents executor
  listTags (executor : ξ) {search : Tag} {window : PageWindow} {bound : PositionalStatement} :
    (schema.listTags search window).Binds schema.dialect bound →
    ∃ rows after, (Executor.query bound).runFrom executor = (.ok rows, after) ∧
      contents after = contents executor
  listEntityTags (executor : ξ) {entity : Int64} {bound : PositionalStatement} :
    (schema.listEntityTags entity).Binds schema.dialect bound →
    ∃ rows after, (Executor.query bound).runFrom executor = (.ok rows, after) ∧
      contents after = contents executor
  attach (executor : ξ) {entity : Int64} {id : TagId} {bound : PositionalStatement} :
    (schema.attach entity id).Binds schema.dialect bound →
    ∃ after, (Executor.execute bound).runFrom executor =
        (.ok ((contents executor).added entity id), after) ∧
      contents after = (contents executor).attach entity id
  detach (executor : ξ) {entity : Int64} {id : TagId} {bound : PositionalStatement} :
    (schema.detach entity id).Binds schema.dialect bound →
    ∃ after, (Executor.execute bound).runFrom executor =
        (.ok ((contents executor).removed entity id), after) ∧
      contents after = (contents executor).detach entity id

/-- The new tags of an insert have new signatures, each once. -/
theorem Contents.grows_insert {contents after : Contents} {drafts : List TagDraft}
    {created : List StoredTag} (distinct : (drafts.map fun draft => draft.tag.signature).Nodup)
    (stored : (created.map StoredTag.draft).Perm (drafts.filter fun draft =>
      draft.tag.signature ∉ contents.signatures))
    (grown : after = { contents with tags := contents.tags ++ created }) :
    contents.Grows after := by
  subst grown
  refine ⟨List.subset_append_left _ _, fun held => ?_⟩
  have signatures : (created.map StoredTag.signature).Perm
      ((drafts.filter fun draft => draft.tag.signature ∉ contents.signatures).map
        fun draft => draft.tag.signature) := by
    have renamed := stored.map fun draft => draft.tag.signature
    rwa [List.map_map] at renamed
  have apart : (created.map StoredTag.signature).Nodup :=
    signatures.nodup_iff.mpr ((List.filter_sublist.map _).nodup distinct)
  simp only [Contents.signatures, List.map_append]
  refine List.nodup_append'.mpr ⟨held, apart, ?_⟩
  intro signature old new
  obtain ⟨draft, member, rfl⟩ := List.mem_map.mp (signatures.mem_iff.mp new)
  have unstored := (List.mem_filter.mp member).2
  simp only [decide_not, Bool.not_eq_eq_eq_not, Bool.not_true, decide_eq_false_iff_not] at unstored
  exact unstored old

namespace Statement

variable {ξ α : Type} [Executor ξ] [RowShape α] {holds : ξ → Prop} {dialect : Dialect}
  {params : Params} {statement : Statement}

/-- Fetching leaves of an executor what running the bound text leaves of it. -/
theorem keeps_fetch {promise : RowPromise}
    (kept : ∀ bound, statement.bind dialect params = .ok bound →
      Action.Keeps holds (Executor.query bound : Action _ ξ _)) :
    Action.Keeps holds (statement.fetch dialect params promise : Action _ ξ _) := by
  refine .ofExcept_bind fun bound binds => (kept bound binds).bind fun rows => ?_
  exact (Action.Keeps.ofExcept _).bind fun _ => .pure _

theorem keeps_fetchAll {promise : RowPromise}
    (kept : ∀ bound, statement.bind dialect params = .ok bound →
      Action.Keeps holds (Executor.query bound : Action _ ξ _)) :
    Action.Keeps holds (statement.fetchAll dialect params promise : Action _ ξ (List α)) :=
  (keeps_fetch kept).bind fun _ => .ofExcept _

theorem keeps_fetchPage
    (kept : ∀ bound, statement.bind dialect params = .ok bound →
      Action.Keeps holds (Executor.query bound : Action _ ξ _)) :
    Action.Keeps holds (statement.fetchPage dialect params : Action _ ξ (Page α)) :=
  (keeps_fetch kept).bind fun _ => .ofExcept _

theorem keeps_run
    (kept : ∀ bound, statement.bind dialect params = .ok bound →
      Action.Keeps holds (Executor.execute bound : Action _ ξ _)) :
    Action.Keeps holds (statement.run dialect params : Action _ ξ _) :=
  .ofExcept_bind fun bound binds => kept bound binds

end Statement

end TagQuery
