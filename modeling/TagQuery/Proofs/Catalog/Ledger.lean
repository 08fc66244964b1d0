import TagQuery.Proofs.Catalog.TagStore
import TagQuery.Proofs.Executor.Faulty

/-! Stores of tags that many catalogs share and that may fail at any time, before or after a
statement has done its work. -/

namespace TagQuery

namespace Contents

/-- No signature is stored twice, and every tag passes the check. -/
structure WellKept (contents : Contents) : Prop where
  distinct : contents.signatures.Nodup
  checked : ∀ record ∈ contents.tags, record.tag.check = .ok ()

/-- Stored tags stay as they are, and well kept tags stay so. -/
structure Advances (before after : Contents) : Prop where
  kept : before.tags ⊆ after.tags
  wellKept : before.WellKept → after.WellKept

namespace Advances

theorem refl (contents : Contents) : contents.Advances contents where
  kept := List.Subset.refl _
  wellKept := id

theorem trans {before middle after : Contents} (first : before.Advances middle)
    (second : middle.Advances after) : before.Advances after where
  kept := List.Subset.trans first.kept second.kept
  wellKept held := second.wellKept (first.wellKept held)

theorem of_tags_eq {before after : Contents} (same : after.tags = before.tags) :
    before.Advances after where
  kept := same ▸ List.Subset.refl _
  wellKept held := by
    refine ⟨?_, fun record member => held.checked record (same ▸ member)⟩
    rw [signatures, same]
    exact held.distinct

theorem names {before after : Contents} (advances : before.Advances after) (signature : Signature)
    (id : TagId) (named : before.Names signature id) : after.Names signature id := by
  obtain ⟨record, member, same⟩ := named
  exact ⟨record, advances.kept member, same⟩

end Advances

/-- The store's identifier of a tag. -/
def Identifies (contents : Contents) (tag : Tag) (id : TagId) : Prop :=
  ∃ record ∈ contents.tags, record.tag = tag ∧ record.id = id

/-- In a well kept store a signature names the one tag that it is the signature of. -/
theorem Names.identifies {contents : Contents} (kept : contents.WellKept) {tag : Tag} {id : TagId}
    (plain : ':' ∉ tag.key.toList) (named : contents.Names tag.signature id) :
    contents.Identifies tag id := by
  obtain ⟨record, member, same, rfl⟩ := named
  have plain' := ((Tag.check_ok_iff _).mp (kept.checked record member)).2.1
  exact ⟨record, member, Tag.signature_injective plain' plain same, rfl⟩

/-- A well kept store has at most one identifier for a tag. -/
theorem Identifies.unique {contents : Contents} (kept : contents.WellKept) {tag : Tag}
    {first second : TagId} (one : contents.Identifies tag first)
    (other : contents.Identifies tag second) : first = second := by
  obtain ⟨record, member, rfl, rfl⟩ := one
  obtain ⟨record', member', same, rfl⟩ := other
  have together := List.inj_on_of_nodup_map kept.distinct member' member
    (congrArg Tag.signature same)
  rw [together]

/-- New valid tags with new signatures leave a store well kept. -/
theorem advances_insert {contents after : Contents} {drafts : List TagDraft}
    {created : List StoredTag} (valid : ∀ draft ∈ drafts, draft.tag.check = .ok ())
    (distinct : (drafts.map fun draft => draft.tag.signature).Nodup)
    (stored : (created.map StoredTag.draft).Perm (drafts.filter fun draft =>
      draft.tag.signature ∉ contents.signatures))
    (grown : after = { contents with tags := contents.tags ++ created }) :
    contents.Advances after := by
  have grows := grows_insert distinct stored grown
  refine ⟨grows.kept, fun held => ⟨grows.distinct held.distinct, ?_⟩⟩
  subst grown
  intro record member
  rcases List.mem_append.mp member with old | new
  · exact held.checked record old
  · have drafted := stored.mem_iff.mp (List.mem_map_of_mem new)
    exact valid _ (List.mem_of_mem_filter drafted)

end Contents

namespace Schema

/-- What catalogs on a schema ask of a store. -/
inductive Asks (schema : Schema) : Prepared → Prop
  | newTags {drafts : List TagDraft} : (∀ draft ∈ drafts, draft.tag.check = .ok ()) →
    (drafts.map fun draft => draft.tag.signature).Nodup → Asks schema (schema.insertTags drafts)
  | allTags : Asks schema schema.listAllTags
  | entities (compiled : CompiledFilter) (window : PageWindow) :
    Asks schema (schema.listEntities compiled window)
  | tags (search : Tag) (window : PageWindow) : Asks schema (schema.listTags search window)
  | entityTags (entity : Int64) : Asks schema (schema.listEntityTags entity)

/-- What catalogs on a schema have a store change. -/
inductive Changes (schema : Schema) : Prepared → Prop
  | attachment (entity : Int64) (id : TagId) : Changes schema (schema.attach entity id)
  | detachment (entity : Int64) (id : TagId) : Changes schema (schema.detach entity id)

/-- The calls that catalogs on a schema can make, with whatever identifiers. -/
inductive Calls (schema : Schema) : ExecutorCall → Prop
  | query {prepared : Prepared} {bound : PositionalStatement} : schema.Asks prepared →
    prepared.Binds schema.dialect bound → Calls schema (.query bound)
  | execute {prepared : Prepared} {bound : PositionalStatement} : schema.Changes prepared →
    prepared.Binds schema.dialect bound → Calls schema (.execute bound)

/-- The questions that are answered with rows of stored tags. -/
inductive AsksForTags (schema : Schema) : Prepared → Prop
  | newTags {drafts : List TagDraft} : (∀ draft ∈ drafts, draft.tag.check = .ok ()) →
    (drafts.map fun draft => draft.tag.signature).Nodup →
      AsksForTags schema (schema.insertTags drafts)
  | allTags : AsksForTags schema schema.listAllTags

theorem AsksForTags.asks {schema : Schema} {prepared : Prepared} :
    schema.AsksForTags prepared → schema.Asks prepared
  | .newTags valid distinct => .newTags valid distinct
  | .allTags => .allTags

end Schema

/-- A store that catalogs on some schemas share. Whatever a call comes to, stored tags stay
and are well kept, and the rows of tags that it returns are those of stored tags. -/
structure TagLedger (serves : Schema → Prop) (ξ : Type) [Executor ξ] where
  contents : ξ → Contents
  advances {schema : Schema} {call : ExecutorCall} (executor : ξ) : serves schema →
    schema.Calls call → (contents executor).Advances (contents (call.effect executor))
  stored {schema : Schema} {prepared : Prepared} {bound : PositionalStatement} {executor after : ξ}
    {rows : List Row} {records : List StoredTag} : serves schema → schema.AsksForTags prepared →
    prepared.Binds schema.dialect bound →
    (Executor.query bound).runFrom executor = (.ok rows, after) →
    rows.mapM readRow = .ok records → records ⊆ (contents after).tags

/-- A store that never fails is one that may. -/
def TagStore.ledger {schema : Schema} {ξ : Type} [Executor ξ] (store : TagStore schema ξ) :
    TagLedger (· = schema) ξ where
  contents := store.contents
  advances := by
    rintro _ _ executor rfl called
    cases called with
    | query asks binds =>
      cases asks with
      | newTags valid distinct =>
        obtain ⟨rows, created, after, ran, _, stored, grown⟩ :=
          store.insert executor valid distinct binds
        rw [ExecutorCall.effect, ran]
        exact Contents.advances_insert valid distinct stored grown
      | allTags =>
        obtain ⟨rows, records, after, ran, _, _, same⟩ := store.listAll executor binds
        rw [ExecutorCall.effect, ran]
        exact .of_tags_eq (congrArg Contents.tags same)
      | entities compiled window =>
        obtain ⟨rows, after, ran, same⟩ := store.listEntities executor binds
        rw [ExecutorCall.effect, ran]
        exact .of_tags_eq (congrArg Contents.tags same)
      | tags search window =>
        obtain ⟨rows, after, ran, same⟩ := store.listTags executor binds
        rw [ExecutorCall.effect, ran]
        exact .of_tags_eq (congrArg Contents.tags same)
      | entityTags entity =>
        obtain ⟨rows, after, ran, same⟩ := store.listEntityTags executor binds
        rw [ExecutorCall.effect, ran]
        exact .of_tags_eq (congrArg Contents.tags same)
    | execute changes binds =>
      cases changes with
      | attachment entity id =>
        obtain ⟨after, ran, same⟩ := store.attach executor binds
        rw [ExecutorCall.effect, ran]
        refine .of_tags_eq ?_
        rw [same, Contents.attach_tags]
      | detachment entity id =>
        obtain ⟨after, ran, same⟩ := store.detach executor binds
        rw [ExecutorCall.effect, ran]
        refine .of_tags_eq ?_
        rw [same]
        rfl
  stored := by
    rintro _ _ _ executor _ _ records rfl asks binds ran read
    cases asks with
    | newTags valid distinct =>
      obtain ⟨rows, created, after, ran', read', stored, grown⟩ :=
        store.insert executor valid distinct binds
      rw [ran] at ran'
      cases ran'
      obtain rfl := Except.ok.inj (read.symm.trans read')
      rw [grown]
      exact List.subset_append_right _ _
    | allTags =>
      obtain ⟨rows, listed, after, ran', read', all, same⟩ := store.listAll executor binds
      rw [ran] at ran'
      cases ran'
      obtain rfl := Except.ok.inj (read.symm.trans read')
      rw [same]
      exact all.subset

namespace TagLedger

variable {serves : Schema → Prop} {ξ : Type} [Executor ξ]

/-- Watching a shared store changes nothing of it. -/
def observed (ledger : TagLedger serves ξ) : TagLedger serves (Observed ξ) where
  contents observed := ledger.contents observed.executor
  advances {_ call} observed served called := by
    rw [Observed.effect_eq]
    exact ledger.advances observed.executor served called
  stored served asks binds ran read := by
    rw [Observed.runFrom_query, Prod.mk.injEq] at ran
    obtain ⟨answered, rfl⟩ := ran
    exact ledger.stored served asks binds (Prod.ext answered rfl) read

/-- Failing calls leave a shared store one. -/
def faulty (ledger : TagLedger serves ξ) : TagLedger serves (Faulty ξ) where
  contents faulty := ledger.contents faulty.executor
  advances {_ call} faulty served called := by
    rcases Faulty.effect_cases call faulty with unmade | made
    · rw [unmade]
      exact .refl _
    · rw [made]
      exact ledger.advances faulty.executor served called
  stored served asks binds ran read :=
    ledger.stored served asks binds (Faulty.of_making_ok ran) read

end TagLedger

end TagQuery
