import TagQuery.Filter.Basic
import TagQuery.IdCache.Basic
import TagQuery.Tag.Validity

/-! What the leaves of a filter test for, and what is wrong with those that no statement can be
made of. -/

namespace TagQuery

/-- Why a tag is refused. The key is looked at before the value. -/
inductive Tag.HasFlaw (tag : Tag) : TagFlaw → Prop
  | emptyKey (blank : tag.key = "") : HasFlaw tag .emptyKey
  | colonInKey (colon : ':' ∈ tag.key.toList) : HasFlaw tag .colonInKey
  | emptyValue (named : tag.key ≠ "") (plain : ':' ∉ tag.key.toList)
    (blank : tag.value = some "") : HasFlaw tag .emptyValue

theorem Tag.flaw?_eq_some_iff {tag : Tag} {flaw : TagFlaw} :
    tag.flaw? = some flaw ↔ tag.HasFlaw flaw := by
  unfold flaw?
  constructor
  · intro found
    split at found
    · next blank => exact Option.some.inj found ▸ .emptyKey blank
    · next named =>
      split at found
      · next colon => exact Option.some.inj found ▸ .colonInKey colon
      · next plain =>
        split at found
        · next blank => exact Option.some.inj found ▸ .emptyValue named plain blank
        · cases found
  · rintro (blank | colon | ⟨named, plain, blank⟩)
    · rw [if_pos blank]
    · have named : tag.key ≠ "" := by
        rintro blank
        simp [blank] at colon
      rw [if_neg named, if_pos colon]
    · rw [if_neg named, if_neg plain, if_pos blank]

theorem Tag.check_of_hasFlaw {tag : Tag} {flaw : TagFlaw} (flawed : tag.HasFlaw flaw) :
    tag.check = .error (.invalidTag tag.key flaw.message) := by
  rw [check, flaw?_eq_some_iff.mpr flawed]

theorem Tag.check_of_flawless {tag : Tag} (flawless : ∀ flaw, ¬ tag.HasFlaw flaw) :
    tag.check = .ok () := by
  have none : tag.flaw? = none :=
    Option.eq_none_iff_forall_ne_some.mpr fun flaw found =>
      flawless flaw (flaw?_eq_some_iff.mp found)
  rw [check, none]

namespace Leaf

@[simp] theorem directive?_bare (key : String) : (tag (.bare key)).directive? = none :=
  ite_self none

theorem directive?_valued {key : String} (tests : key ≠ sortKey) (value : String) :
    (tag (.valued key value)).directive? = none := by
  simp [directive?, Tag.valued, tests]

@[simp] theorem subject?_bare (key : String) :
    (tag (.bare key)).subject? = some (.bare key) := by
  simp [subject?]

theorem subject?_valued {key : String} (tests : key ≠ sortKey) (value : String) :
    (tag (.valued key value)).subject? = some (.valued key value) := by
  simp [subject?, directive?_valued tests]

theorem subject?_tag {named : Tag} (tests : ¬ (named.key = sortKey ∧ named.value.isSome)) :
    (tag named).subject? = some named := by
  obtain ⟨key, _ | value⟩ := named
  · exact subject?_bare key
  · exact subject?_valued (fun asks => tests ⟨asks, rfl⟩) value

/-- A leaf tests for the tag that it names, unless it asks for an order. -/
inductive Tests : Leaf → Tag → Prop
  | bare (key : String) : Tests (.tag (.bare key)) (.bare key)
  | valued {key : String} (apart : key ≠ sortKey) (value : String) :
    Tests (.tag (.valued key value)) (.valued key value)

theorem subject?_eq_some_iff {leaf : Leaf} {tag : Tag} :
    leaf.subject? = some tag ↔ leaf.Tests tag := by
  constructor
  · intro subject
    cases leaf with
    | always => cases subject
    | tag named =>
      obtain ⟨key, _ | value⟩ := named
      · cases (subject?_bare key).symm.trans subject
        exact .bare key
      · by_cases asks : key = sortKey
        · subst asks
          cases subject
        · cases (subject?_valued asks value).symm.trans subject
          exact .valued asks value
  · rintro (key | ⟨apart, value⟩)
    · exact subject?_bare key
    · exact subject?_valued apart value

/-- A leaf that tests for a tag which no statement can be made of. -/
def Invalid (leaf : Leaf) : Prop :=
  ∃ tag flaw, leaf.Tests tag ∧ tag.HasFlaw flaw

/-- A leaf that tests for a valued tag without an identifier. -/
def Unknown (resolved : Resolution) (leaf : Leaf) : Prop :=
  ∃ key value, leaf.Tests (.valued key value) ∧
    resolved.get? (Tag.valued key value).signature = none

end Leaf

end TagQuery
