import Mathlib.Data.Finset.Card
import TagQuery.Proofs.Catalog.Effects

/-! A registry of tags and of the entities that carry them, without identifiers, rows and caches,
and that a catalog of its own store answers as the registry does. -/

namespace TagQuery

/-- The tags there are, and the pairs of an entity and a tag it carries. -/
@[ext]
structure Registry where
  tags : Finset Tag
  pairs : Finset (Int64 × Tag)

/-- What a command answers, without identifiers. -/
inductive Verdict where
  | counted (number : Nat)
  | created (tags : Multiset Tag)
  | changed (new : Bool)

def Reply.verdict : Reply → Verdict
  | .counted number => .counted number
  | .created records => .created (records.map StoredTag.tag)
  | .changed new => .changed new

namespace Registry

/-- Let an entity carry a tag that there is. -/
def add (registry : Registry) (entity : Int64) (tag : Tag) : Except QueryFault Verdict × Registry :=
  if tag ∈ registry.tags then
    (.ok (.changed ((entity, tag) ∉ registry.pairs)),
      { registry with pairs := insert (entity, tag) registry.pairs })
  else (.error (.unknownTag tag.signature), registry)

/-- The answer to a command and the registry after it. -/
def perform (registry : Registry) : Command → Except QueryFault Verdict × Registry
  | .loadCache => (.ok (.counted registry.tags.card), registry)
  | .createTags drafts =>
    (.ok (.created ((drafts.map TagDraft.tag).toFinset \ registry.tags).val),
      { registry with tags := registry.tags ∪ (drafts.map TagDraft.tag).toFinset })
  | .addTag entity tag => registry.add entity tag
  | .removeTag entity tag =>
    (.ok (.changed ((entity, tag) ∈ registry.pairs)),
      { registry with pairs := registry.pairs.erase (entity, tag) })
  | .attachTag entity raw _ =>
    match (Tag.parse raw).check with
    | .ok () =>
      add { registry with tags := insert (Tag.parse raw) registry.tags } entity (Tag.parse raw)
    | .error fault => (.error fault, registry)

end Registry

namespace Contents

/-- The pairs of a record's tag and the entities that carry it. -/
def pairsOf (contents : Contents) (record : StoredTag) : List (Int64 × Tag) :=
  (contents.pairs.filter fun pair => pair.2 = record.id).map fun pair => (pair.1, record.tag)

/-- The registry that contents stand for. -/
def registry (contents : Contents) : Registry where
  tags := (contents.tags.map StoredTag.tag).toFinset
  pairs := (contents.tags.flatMap contents.pairsOf).toFinset

/-- Between two times, no identifier was given twice, nor one that a pair already had. -/
structure GivesFreshIds (before after : Contents) : Prop where
  distinct : (after.tags.map StoredTag.id).Nodup
  unpaired : ∀ pair ∈ before.pairs, ∀ record ∈ after.tags, record.id = pair.2 →
    record ∈ before.tags

instance (before after : Contents) : Decidable (before.GivesFreshIds after) :=
  decidable_of_iff (_ ∧ _) ⟨fun ⟨distinct, unpaired⟩ => ⟨distinct, unpaired⟩,
    fun fresh => ⟨fresh.distinct, fresh.unpaired⟩⟩

theorem GivesFreshIds.of_prefix {before middle after : Contents}
    (fresh : before.GivesFreshIds after) (earlier : middle.tags <+: after.tags) :
    before.GivesFreshIds middle where
  distinct := (earlier.sublist.map StoredTag.id).nodup fresh.distinct
  unpaired pair member record inside := fresh.unpaired pair member record (earlier.subset inside)

variable {contents after : Contents} {entity : Int64} {tag : Tag} {id : TagId}

theorem mem_registry_tags : tag ∈ contents.registry.tags ↔ ∃ id, contents.Identifies tag id := by
  simp only [registry, List.mem_toFinset, List.mem_map, Identifies]
  constructor
  · rintro ⟨record, member, same⟩
    exact ⟨record.id, record, member, same, rfl⟩
  · rintro ⟨_, record, member, same, _⟩
    exact ⟨record, member, same⟩

theorem mem_registry_pairs : (entity, tag) ∈ contents.registry.pairs ↔
    contents.CarriesSome entity fun record => record.tag = tag := by
  simp only [registry, pairsOf, List.mem_toFinset, List.mem_flatMap, List.mem_map, List.mem_filter,
    decide_eq_true_eq, Prod.mk.injEq, CarriesSome, Carries]
  constructor
  · rintro ⟨record, member, ⟨_, _⟩, ⟨carried, rfl⟩, rfl, same⟩
    exact ⟨record, member, same, carried⟩
  · rintro ⟨record, member, same, carried⟩
    exact ⟨record, member, (entity, record.id), ⟨carried, rfl⟩, rfl, same⟩

/-- In a well kept store the pairs of a tag are those of its identifier. -/
theorem mem_registry_pairs_iff (entity : Int64) (kept : contents.WellKept)
    (identifies : contents.Identifies tag id) :
    (entity, tag) ∈ contents.registry.pairs ↔ (entity, id) ∈ contents.pairs := by
  rw [mem_registry_pairs]
  constructor
  · rintro ⟨record, member, same, carried⟩
    have other : contents.Identifies tag record.id := ⟨record, member, same, rfl⟩
    rwa [← other.unique kept identifies]
  · intro carried
    obtain ⟨record, member, same, rfl⟩ := identifies
    exact ⟨record, member, same, carried⟩

/-- Identifiers that were given once tell tags apart. -/
theorem Identifies.tag_eq (ids : (contents.tags.map StoredTag.id).Nodup) {other : Tag}
    (one : contents.Identifies tag id) (two : contents.Identifies other id) : tag = other := by
  obtain ⟨record, member, rfl, rfl⟩ := one
  obtain ⟨record', member', rfl, same⟩ := two
  rw [List.inj_on_of_nodup_map ids member' member same]

theorem mem_pairs_attach (pair : Int64 × TagId) : pair ∈ (contents.attach entity id).pairs ↔
    pair = (entity, id) ∨ pair ∈ contents.pairs := by
  unfold attach
  split
  · next present =>
    constructor
    · exact .inr
    · rintro (rfl | member)
      · exact present
      · exact member
  · rw [List.mem_append, List.mem_singleton, or_comm]

/-- Attaching a tag by its identifier adds its pair. -/
theorem registry_attach (ids : (contents.tags.map StoredTag.id).Nodup)
    (identifies : contents.Identifies tag id) : (contents.attach entity id).registry =
      { contents.registry with pairs := insert (entity, tag) contents.registry.pairs } := by
  refine Registry.ext ?_ ?_
  · rw [registry, attach_tags]
    rfl
  · ext ⟨other, named⟩
    rw [Finset.mem_insert, mem_registry_pairs, mem_registry_pairs]
    simp only [CarriesSome, Carries, attach_tags, mem_pairs_attach, Prod.mk.injEq]
    constructor
    · rintro ⟨record, member, same, ⟨rfl, rfl⟩ | carried⟩
      · have here : contents.Identifies named record.id := ⟨record, member, same, rfl⟩
        exact .inl ⟨rfl, here.tag_eq ids identifies⟩
      · exact .inr ⟨record, member, same, carried⟩
    · rintro (⟨rfl, rfl⟩ | ⟨record, member, same, carried⟩)
      · obtain ⟨record, member, same, rfl⟩ := identifies
        exact ⟨record, member, same, .inl ⟨rfl, rfl⟩⟩
      · exact ⟨record, member, same, .inr carried⟩

/-- Detaching a tag by its identifier takes its pair away. -/
theorem registry_detach (kept : contents.WellKept) (ids : (contents.tags.map StoredTag.id).Nodup)
    (identifies : contents.Identifies tag id) : (contents.detach entity id).registry =
      { contents.registry with pairs := contents.registry.pairs.erase (entity, tag) } := by
  refine Registry.ext rfl ?_
  ext ⟨other, named⟩
  rw [Finset.mem_erase, mem_registry_pairs, mem_registry_pairs]
  simp only [CarriesSome, Carries, detach, List.mem_filter, decide_eq_true_eq, ne_eq,
    Prod.mk.injEq]
  constructor
  · rintro ⟨record, member, same, carried, apart⟩
    refine ⟨?_, record, member, same, carried⟩
    rintro ⟨rfl, rfl⟩
    have here : contents.Identifies named record.id := ⟨record, member, same, rfl⟩
    exact apart ⟨rfl, here.unique kept identifies⟩
  · rintro ⟨apart, record, member, same, carried⟩
    refine ⟨record, member, same, carried, ?_⟩
    rintro ⟨rfl, rfl⟩
    have here : contents.Identifies named record.id := ⟨record, member, same, rfl⟩
    exact apart ⟨rfl, here.tag_eq ids identifies⟩

/-- New tags with fresh identifiers have no pairs. -/
theorem registry_insert {created : List StoredTag}
    (fresh : contents.GivesFreshIds { contents with tags := contents.tags ++ created }) :
    ({ contents with tags := contents.tags ++ created } : Contents).registry =
      { contents.registry with
        tags := contents.registry.tags ∪ (created.map StoredTag.tag).toFinset } := by
  refine Registry.ext ?_ ?_
  · simp only [registry, List.map_append, List.toFinset_append]
  · ext ⟨entity, tag⟩
    rw [mem_registry_pairs, mem_registry_pairs]
    constructor
    · rintro ⟨record, member, same, carried⟩
      exact ⟨record, fresh.unpaired _ carried record member rfl, same, carried⟩
    · rintro ⟨record, member, same, carried⟩
      exact ⟨record, List.mem_append_left _ member, same, carried⟩

end Contents

namespace Schema

variable {contents : Contents} {drafts : List TagDraft} {created : List StoredTag}

/-- Every tag that is asked for is among the distinct ones. -/
theorem exists_mem_distinctTags (valid : ∀ draft ∈ drafts, draft.tag.check = .ok ())
    {draft : TagDraft} (member : draft ∈ drafts) : ∃ first ∈ distinctTags drafts,
      first.tag = draft.tag := by
  have inside : draft.tag.signature ∈ (distinctTags drafts).map fun new => new.tag.signature := by
    rw [map_signature_distinctTags, List.mem_eraseDups]
    exact List.mem_map_of_mem member
  obtain ⟨first, present, same⟩ := List.mem_map.mp inside
  have plain (new : TagDraft) (asked : new ∈ drafts) : ':' ∉ new.tag.key.toList :=
    ((Tag.check_ok_iff _).mp (valid new asked)).2.1
  exact ⟨first, present, Tag.signature_injective (plain _ (distinctTags_subset _ present))
    (plain _ member) same⟩

/-- The tags of an insert of valid drafts are those asked for that are not stored, each once. -/
theorem map_tag_created (kept : contents.WellKept)
    (valid : ∀ draft ∈ drafts, draft.tag.check = .ok ())
    (stored : (created.map StoredTag.draft).Perm ((distinctTags drafts).filter fun draft =>
      draft.tag.signature ∉ contents.signatures)) :
    ((created.map StoredTag.tag : List Tag) : Multiset Tag) =
      ((drafts.map TagDraft.tag).toFinset \ contents.registry.tags).val := by
  have tags : created.map StoredTag.tag = (created.map StoredTag.draft).map TagDraft.tag := by
    rw [List.map_map]
    rfl
  have signatures : (((distinctTags drafts).map TagDraft.tag).map Tag.signature).Nodup := by
    rw [List.map_map]
    exact nodup_distinctTags drafts
  have distinct : (created.map StoredTag.tag).Nodup := by
    rw [tags, (stored.map TagDraft.tag).nodup_iff]
    exact (List.filter_sublist.map TagDraft.tag).nodup (List.Nodup.of_map _ signatures)
  refine (Multiset.Nodup.ext (Multiset.coe_nodup.mpr distinct) (Finset.nodup _)).mpr fun tag => ?_
  rw [Multiset.mem_coe, tags, List.mem_map, Finset.mem_val, Finset.mem_sdiff, List.mem_toFinset,
    List.mem_map, Contents.mem_registry_tags]
  constructor
  · rintro ⟨draft, member, rfl⟩
    have asked := List.mem_filter.mp (stored.mem_iff.mp member)
    have inside := distinctTags_subset _ asked.1
    rw [← Contents.mem_signatures_iff kept (valid draft inside)]
    exact ⟨⟨draft, inside, rfl⟩, of_decide_eq_true asked.2⟩
  · rintro ⟨⟨draft, member, rfl⟩, unstored⟩
    rw [← Contents.mem_signatures_iff kept (valid draft member)] at unstored
    obtain ⟨first, present, same⟩ := exists_mem_distinctTags valid member
    refine ⟨first, stored.mem_iff.mpr (List.mem_filter.mpr ⟨present, ?_⟩), same⟩
    rw [same]
    exact decide_eq_true unstored

end Schema

namespace Command.Does

variable {contents after : Contents} {result : Except Failure Reply}

/-- Commands only add tags. -/
theorem tags_prefix {command : Command} (does : command.Does contents result after) :
    contents.tags <+: after.tags := by
  induction does with
  | loadCache => exact List.prefix_refl _
  | createTags _ => exact List.prefix_append _ _
  | addTag _ =>
    rw [Contents.attach_tags]
  | addUnknown _ => exact List.prefix_refl _
  | removeTag _ => exact List.prefix_refl _
  | removeUnknown _ => exact List.prefix_refl _
  | attachTag _ _ _ creates adds => exact creates.trans adds
  | attachInvalid _ => exact List.prefix_refl _

/-- Identifiers that are fresh after a command were so since before it. -/
theorem givesFreshIds {command : Command} {last : Contents}
    (does : command.Does contents result after) (fresh : contents.GivesFreshIds last)
    (later : after.tags <+: last.tags) : after.GivesFreshIds last := by
  refine ⟨fresh.distinct, ?_⟩
  induction does with
  | loadCache => exact fresh.unpaired
  | createTags _ =>
    intro pair member record inside same
    exact List.mem_append_left _ (fresh.unpaired pair member record inside same)
  | addTag identifies =>
    intro pair member record inside same
    rw [Contents.attach_tags] at later ⊢
    rcases (Contents.mem_pairs_attach pair).mp member with rfl | old
    · obtain ⟨named, stored, _, rfl⟩ := identifies
      rwa [List.inj_on_of_nodup_map fresh.distinct inside (later.subset stored) same]
    · exact fresh.unpaired pair old record inside same
  | addUnknown _ => exact fresh.unpaired
  | removeTag _ => exact fun pair member => fresh.unpaired pair (List.mem_of_mem_filter member)
  | removeUnknown _ => exact fresh.unpaired
  | attachTag _ _ adds creates' adds' =>
    exact adds' ⟨fresh.distinct, creates' fresh (adds.tags_prefix.trans later)⟩ later
  | attachInvalid _ => exact fresh.unpaired

/-- Well kept contents stay so when valid tags are created. -/
theorem wellKept_of_createTags {drafts : List TagDraft}
    (does : (Command.createTags drafts).Does contents result after)
    (valid : ∀ draft ∈ drafts, draft.tag.check = .ok ()) (kept : contents.WellKept) :
    after.WellKept := by
  cases does with
  | createTags stored =>
    refine (Contents.advances_insert (fun draft member => ?_) (Schema.nodup_distinctTags drafts)
      stored rfl).wellKept kept
    exact valid draft (Schema.distinctTags_subset _ member)

/-- The answer to a command and the contents after it, as callers of a registry see them. -/
def Matches (contents : Contents) (command : Command) (result : Except Failure Reply)
    (after : Contents) : Prop :=
  result.map Reply.verdict = (contents.registry.perform command).1.mapError .ofQuery ∧
    after.registry = (contents.registry.perform command).2

theorem matches_createTags {drafts : List TagDraft}
    (does : (Command.createTags drafts).Does contents result after)
    (valid : ∀ draft ∈ drafts, draft.tag.check = .ok ()) (kept : contents.WellKept)
    (fresh : contents.GivesFreshIds after) :
    Matches contents (.createTags drafts) result after := by
  cases does with
  | @createTags _ _ created stored =>
    have tags := Schema.map_tag_created kept valid stored
    have news : (created.map StoredTag.tag).toFinset =
        (drafts.map TagDraft.tag).toFinset \ contents.registry.tags := by
      ext tag
      rw [List.mem_toFinset, ← Multiset.mem_coe, tags, Finset.mem_val]
    constructor
    · exact congrArg (fun tags => Except.ok (Verdict.created tags)) tags
    · rw [Contents.registry_insert fresh, news, Finset.union_sdiff_self_eq_union]
      rfl

theorem matches_addTag {entity : Int64} {tag : Tag}
    (does : (Command.addTag entity tag).Does contents result after) (kept : contents.WellKept)
    (ids : (after.tags.map StoredTag.id).Nodup) :
    Matches contents (.addTag entity tag) result after := by
  unfold Matches
  rw [Registry.perform, Registry.add]
  cases does with
  | @addTag _ _ _ id identifies =>
    rw [Contents.attach_tags] at ids
    rw [if_pos (Contents.mem_registry_tags.mpr ⟨id, identifies⟩)]
    refine ⟨?_, Contents.registry_attach ids identifies⟩
    have pairs := Contents.mem_registry_pairs_iff entity kept identifies
    by_cases carried : (entity, id) ∈ contents.pairs
    · simp [Except.map, Except.mapError, Reply.verdict, Contents.added, pairs, carried]
    · simp [Except.map, Except.mapError, Reply.verdict, Contents.added, pairs, carried]
  | addUnknown missing =>
    rw [if_neg fun stored => missing _ (Contents.mem_registry_tags.mp stored).choose_spec]
    exact ⟨rfl, rfl⟩

theorem matches_removeTag {entity : Int64} {tag : Tag}
    (does : (Command.removeTag entity tag).Does contents result after) (kept : contents.WellKept)
    (ids : (after.tags.map StoredTag.id).Nodup) :
    Matches contents (.removeTag entity tag) result after := by
  unfold Matches
  rw [Registry.perform]
  cases does with
  | @removeTag _ _ _ id identifies =>
    refine ⟨?_, Contents.registry_detach kept ids identifies⟩
    have pairs := Contents.mem_registry_pairs_iff entity kept identifies
    by_cases carried : (entity, id) ∈ contents.pairs
    · simp [Except.map, Except.mapError, Reply.verdict, Contents.removed, pairs, carried]
    · simp [Except.map, Except.mapError, Reply.verdict, Contents.removed, pairs, carried]
  | removeUnknown missing =>
    have free : (entity, tag) ∉ contents.registry.pairs := by
      rw [Contents.mem_registry_pairs]
      rintro ⟨record, member, same, _⟩
      exact missing record.id ⟨record, member, same, rfl⟩
    rw [Finset.erase_eq_of_notMem free]
    exact ⟨by simp [Except.map, Except.mapError, Reply.verdict, free], rfl⟩

/-- What a valid command does to a well kept store is what it does to the registry. -/
theorem matches_registry {command : Command} (does : command.Does contents result after)
    (valid : command.Valid) (kept : contents.WellKept) (fresh : contents.GivesFreshIds after) :
    Matches contents command result after := by
  cases command with
  | loadCache =>
    cases does with
    | loadCache =>
      have distinct : (contents.tags.map StoredTag.tag).Nodup := by
        refine List.Nodup.of_map Tag.signature ?_
        rw [List.map_map]
        exact kept.distinct
      have count : contents.registry.tags.card = contents.tags.length := by
        rw [Contents.registry, List.toFinset_card_of_nodup distinct, List.length_map]
      refine ⟨?_, rfl⟩
      rw [Registry.perform, count]
      rfl
  | createTags drafts => exact does.matches_createTags valid kept fresh
  | addTag entity tag => exact does.matches_addTag kept fresh.distinct
  | removeTag entity tag => exact does.matches_removeTag kept fresh.distinct
  | attachTag entity raw type =>
    cases does with
    | attachTag checked creates adds =>
      have valid : ∀ draft ∈ [TagDraft.mk (Tag.parse raw) type], draft.tag.check = .ok () := by
        simpa using checked
      have between := fresh.of_prefix adds.tags_prefix
      have created := (creates.matches_createTags valid kept between).2
      have kept' := creates.wellKept_of_createTags valid kept
      have added := adds.matches_addTag kept' fresh.distinct
      have start : contents.registry.tags ∪ ([TagDraft.mk (Tag.parse raw) type].map
          TagDraft.tag).toFinset = insert (Tag.parse raw) contents.registry.tags := by
        rw [Finset.union_comm]
        rfl
      rw [Registry.perform, start] at created
      unfold Matches at added ⊢
      rw [created] at added
      rw [Registry.perform, checked]
      exact added
    | attachInvalid refused =>
      unfold Matches
      rw [Registry.perform, refused]
      exact ⟨rfl, rfl⟩

end Command.Does

end TagQuery
