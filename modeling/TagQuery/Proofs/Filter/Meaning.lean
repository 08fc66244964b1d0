import Mathlib.Data.List.Forall2
import Mathlib.Data.List.Nodup
import TagQuery.Filter.Basic
import TagQuery.Proofs.Filter.Formula
import TagQuery.Proofs.Filter.Leaves
import TagQuery.Proofs.Tag.Signature

/-! Which entities a filter is about, given the tags and the pairs that a store holds. -/

namespace TagQuery

/-- The tags, and the pairs of an entity and a tag that it carries. Pairs may repeat. -/
structure Contents where
  tags : List StoredTag := []
  pairs : List (Int64 × TagId) := []

namespace Contents

/-- No two tags share a name or an identifier, and every key is one that a tag may have. -/
structure Valid (contents : Contents) : Prop where
  names : (contents.tags.map StoredTag.tag).Nodup
  ids : (contents.tags.map StoredTag.id).Nodup
  keys : ∀ record ∈ contents.tags, (Tag.bare record.key).check = .ok ()

def Carries (contents : Contents) (entity : Int64) (id : TagId) : Prop :=
  (entity, id) ∈ contents.pairs

/-- A stored tag with a property is carried. -/
def CarriesSome (contents : Contents) (entity : Int64) (fits : StoredTag → Prop) : Prop :=
  ∃ record ∈ contents.tags, fits record ∧ contents.Carries entity record.id

theorem Valid.tag_injective {contents : Contents} (valid : contents.Valid) {first second : StoredTag}
    (memberFirst : first ∈ contents.tags) (memberSecond : second ∈ contents.tags)
    (same : first.tag = second.tag) : first = second :=
  List.inj_on_of_nodup_map valid.names memberFirst memberSecond same

/-- Stored signatures tell their tags apart from each other and from any tag that passes
the check. -/
theorem Valid.tag_eq {contents : Contents} (valid : contents.Valid) {record : StoredTag} {tag : Tag}
    (member : record ∈ contents.tags) (checked : tag.check = .ok ())
    (same : record.signature = tag.signature) : record.tag = tag :=
  Tag.signature_injective ((Tag.check_ok_iff _).mp (valid.keys record member)).2.1
    ((Tag.check_ok_iff tag).mp checked).2.1 same

theorem Valid.nodup_signatures {contents : Contents} (valid : contents.Valid) :
    (contents.tags.map StoredTag.signature).Nodup := by
  have plain {record : StoredTag} (member : record ∈ contents.tags) : ':' ∉ record.key.toList :=
    ((Tag.check_ok_iff _).mp (valid.keys record member)).2.1
  refine List.Nodup.map_on ?_ (List.Nodup.of_map _ valid.names)
  intro first memberFirst second memberSecond same
  exact valid.tag_injective memberFirst memberSecond
    (Tag.signature_injective (plain memberFirst) (plain memberSecond) same)

end Contents

/-- A valued tag is had by what carries it. A bare tag that is not stored is had by what
carries any tag with its key. -/
def Tag.HeldBy (contents : Contents) (entity : Int64) (tag : Tag) : Prop :=
  match tag.value with
  | some _ => contents.CarriesSome entity fun record => record.tag = tag
  | none =>
    if ∃ record ∈ contents.tags, record.tag = tag then
      contents.CarriesSome entity fun record => record.tag = tag
    else contents.CarriesSome entity fun record => record.key = tag.key

/-- A stored tag, bare or valued, is had by what carries it. -/
theorem StoredTag.tag_heldBy_iff {contents : Contents} (valid : contents.Valid) {record : StoredTag}
    (member : record ∈ contents.tags) (entity : Int64) :
    record.tag.HeldBy contents entity ↔ contents.Carries entity record.id := by
  have only : contents.CarriesSome entity (fun other => other.tag = record.tag) ↔
      contents.Carries entity record.id := by
    constructor
    · rintro ⟨other, present, same, carried⟩
      rwa [valid.tag_injective present member same] at carried
    · exact fun carried => ⟨record, member, rfl, carried⟩
  unfold Tag.HeldBy
  split
  · exact only
  · rw [if_pos ⟨record, member, rfl⟩]
    exact only

/-- A bare tag that is not stored is had by what carries any tag with its key. -/
theorem Tag.heldBy_of_not_stored {contents : Contents} {tag : Tag} (bare : tag.value = none)
    (absent : ∀ record ∈ contents.tags, record.tag ≠ tag) (entity : Int64) :
    tag.HeldBy contents entity ↔
      contents.CarriesSome entity fun record => record.key = tag.key := by
  have missing : ¬ ∃ record ∈ contents.tags, record.tag = tag := by
    rintro ⟨record, member, same⟩
    exact absent record member same
  simp only [HeldBy, bare, missing, ↓reduceIte]

/-- A valued tag with the key `sort` asks nothing of an entity. -/
def Leaf.HeldBy (contents : Contents) (entity : Int64) : Leaf → Prop
  | .always => True
  | .tag named => (named.key = sortKey ∧ named.value.isSome) ∨ named.HeldBy contents entity

def Filter.HoldsFor (contents : Contents) (entity : Int64) (filter : Filter) : Prop :=
  Formula.Holds (Leaf.HeldBy contents entity) filter

/-- A leaf without a subject holds for every entity. -/
theorem Leaf.heldBy_of_subject?_none {contents : Contents} {entity : Int64} {leaf : Leaf}
    (none : leaf.subject? = none) : leaf.HeldBy contents entity := by
  cases leaf with
  | always => trivial
  | tag named =>
    left
    unfold subject? directive? at none
    grind

theorem Leaf.heldBy_of_subject? {contents : Contents} {entity : Int64} {leaf : Leaf} {tag : Tag}
    (subject : leaf.subject? = some tag) :
    leaf.HeldBy contents entity ↔ tag.HeldBy contents entity := by
  cases subject?_eq_some_iff.mp subject with
  | bare key => exact or_iff_right fun ⟨_, asks⟩ => Bool.noConfusion asks
  | valued apart value => exact or_iff_right fun ⟨asks, _⟩ => apart asks

end TagQuery
