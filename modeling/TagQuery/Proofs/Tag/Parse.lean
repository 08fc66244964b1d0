import TagQuery.Proofs.Tag.Signature
import TagQuery.Proofs.Text.Blank

/-! Tags that raw text names. -/

namespace TagQuery.Tag

theorem colon_not_mem_key_parse (raw : String) : ':' ∉ (parse raw).key.toList := by
  intro member
  rw [parse, String.toList_ofList] at member
  have before := Text.trimChars_subset _ member
  simpa using List.all_eq_true.mp (List.all_takeWhile (p := (· != ':')) (l := raw.toList)) _ before

/-- Text is a value unless it is empty. -/
theorem valueOf_eq_some_iff {characters : List Char} {value : String} :
    valueOf characters = some value ↔ value ≠ "" ∧ value.toList = characters := by
  unfold valueOf
  constructor
  · intro found
    split at found
    · cases found
    · next filled =>
      cases found
      refine ⟨fun empty => filled ?_, String.toList_ofList⟩
      simpa using empty
  · rintro ⟨named, rfl⟩
    have filled : value.toList ≠ [] := fun empty => named (String.ext empty)
    rw [if_neg (by simpa using filled), String.ofList_toList]

theorem value_parse_ne_empty (raw : String) : (parse raw).value ≠ some "" := by
  intro empty
  exact (valueOf_eq_some_iff.mp empty).1 rfl

/-- Raw text names a valid tag, unless its key comes out empty. -/
theorem check_parse {raw : String} (named : (parse raw).key ≠ "") : (parse raw).check = .ok () :=
  (check_ok_iff _).mpr ⟨named, colon_not_mem_key_parse raw, value_parse_ne_empty raw⟩

end TagQuery.Tag
