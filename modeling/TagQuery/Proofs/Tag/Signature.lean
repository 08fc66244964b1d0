import TagQuery.Proofs.Action.Outcome
import TagQuery.Proofs.List.Runs
import TagQuery.Tag.Validity

/-! Signatures tell tags apart whose keys hold no colon. -/

namespace TagQuery

/-- The characters of a tag that its signature begins with, and those after the colon. -/
theorem Tag.signature_toList (tag : Tag) :
    tag.signature.text.toList =
      tag.key.toList ++ tag.value.elim [] fun value => ':' :: value.toList := by
  rcases tag with ⟨key, _ | value⟩ <;> simp [signature]

private theorem takeWhile_append_colon {before after : List Char} (plain : ':' ∉ before) :
    (before ++ ':' :: after).takeWhile (· != ':') = before := by
  have free : ∀ character ∈ before, (character != ':') = true := by
    intro character member
    simpa using ne_of_mem_of_not_mem member plain
  exact takeWhile_append_of_stop free rfl

theorem Tag.signature_injective {first second : Tag} (plainFirst : ':' ∉ first.key.toList)
    (plainSecond : ':' ∉ second.key.toList) (same : first.signature = second.signature) :
    first = second := by
  have texts := congrArg (fun signature => signature.text.toList) same
  rcases first with ⟨key, _ | value⟩ <;> rcases second with ⟨key', _ | value'⟩ <;>
    simp only [signature_toList, Option.elim, List.append_nil] at texts plainFirst plainSecond
  · rw [String.ext texts]
  · exact absurd (by simp [texts]) plainFirst
  · exact absurd (by simp [← texts]) plainSecond
  · have keys : key.toList = key'.toList := by
      rw [← takeWhile_append_colon plainFirst, texts, takeWhile_append_colon plainSecond]
    rw [keys, List.append_cancel_left_eq, List.cons.injEq] at texts
    rw [String.ext keys, String.ext texts.2]

/-- What the check of a tag says of it. -/
theorem Tag.check_ok_iff (tag : Tag) : tag.check = .ok () ↔
    tag.key ≠ "" ∧ ':' ∉ tag.key.toList ∧ tag.value ≠ some "" := by
  unfold check flaw?
  by_cases empty : tag.key = "" <;> by_cases colon : ':' ∈ tag.key.toList <;>
    by_cases hollow : tag.value = some "" <;> simp_all

end TagQuery
