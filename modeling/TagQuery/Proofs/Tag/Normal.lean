import TagQuery.Proofs.Tag.Parse

/-! Raw text names tags in a normal form, which is that of the tags that their own signatures
name. -/

namespace TagQuery.Tag

/-- A tag of which nothing is lost in its signature: the key ends where the first colon is, an
empty value is none, and there is no white space around either to be dropped. -/
structure Normal (tag : Tag) : Prop where
  plain : ':' ∉ tag.key.toList
  key : Text.Trimmed tag.key.toList
  value : ∀ value ∈ tag.value, value ≠ "" ∧ Text.Trimmed value.toList

theorem normal_parse (raw : String) : (parse raw).Normal where
  plain := colon_not_mem_key_parse raw
  key := by
    rw [parse, String.toList_ofList]
    exact Text.trimmed_trimChars _
  value := by
    intro value member
    obtain ⟨named, written⟩ := valueOf_eq_some_iff.mp member
    rw [written]
    exact ⟨named, Text.trimmed_trimChars _⟩

private theorem all_ne_colon {characters : List Char} (plain : ':' ∉ characters) :
    ∀ character ∈ characters, (character != ':') = true := by
  intro character member
  simpa using ne_of_mem_of_not_mem member plain

/-- Text without a colon is a key. -/
private theorem parse_of_plain {raw : String} (plain : ':' ∉ raw.toList) :
    parse raw = .bare (String.ofList (Text.trimChars raw.toList)) := by
  have all := all_ne_colon plain
  rw [parse, List.takeWhile_eq_self_iff.mpr all, List.dropWhile_eq_nil_iff.mpr all]
  rfl

/-- Other text is divided by its first colon. -/
private theorem parse_of_divided {raw : String} {before after : List Char}
    (divided : raw.toList = before ++ ':' :: after) (plain : ':' ∉ before) :
    parse raw = ⟨String.ofList (Text.trimChars before), valueOf (Text.trimChars after)⟩ := by
  have all := all_ne_colon plain
  rw [parse, divided, takeWhile_append_of_stop all rfl, List.dropWhile_append_of_pos all]
  rfl

/-- A signature is cut where it was joined, and nothing around the parts is dropped. -/
theorem Normal.parse_signature {tag : Tag} (normal : tag.Normal) : parse tag.signature.text = tag := by
  have written := tag.signature_toList
  obtain ⟨key, _ | value⟩ := tag
  · rw [Option.elim_none, List.append_nil] at written
    have plain : ':' ∉ (Tag.mk key none).signature.text.toList := written ▸ normal.plain
    rw [parse_of_plain plain, written, Text.trimChars_of_trimmed normal.key, String.ofList_toList]
    rfl
  · obtain ⟨named, trimmed⟩ := normal.value value rfl
    rw [parse_of_divided written normal.plain, Text.trimChars_of_trimmed normal.key,
      Text.trimChars_of_trimmed trimmed, valueOf_eq_some_iff.mpr ⟨named, rfl⟩,
      String.ofList_toList]

theorem normal_iff_parse_signature {tag : Tag} : tag.Normal ↔ parse tag.signature.text = tag := by
  constructor
  · exact Normal.parse_signature
  · intro again
    rw [← again]
    exact normal_parse _

/-- The key comes out empty when there is only white space before the first colon. -/
theorem key_parse_eq_empty_iff {raw : String} : (parse raw).key = "" ↔
    ∀ character ∈ raw.toList.takeWhile (· != ':'), Text.isBlank character = true := by
  rw [← Text.trimChars_eq_nil_iff, parse]
  constructor
  · intro empty
    simpa using empty
  · intro empty
    rw [empty]

/-- What raw text has to do with the tag that it names. -/
structure NamedBy (raw : String) (tag : Tag) : Prop where
  normal : tag.Normal
  again : parse tag.signature.text = tag
  /-- Something other than white space stands before the first colon, if there is a colon. -/
  valid : tag.check = .ok () ↔
    ∃ character ∈ raw.toList.takeWhile (· != ':'), Text.isBlank character = false
  invalid : ∀ fault, tag.check = .error fault → fault = .invalidTag "" "key is empty"
  apart : ∀ other, tag.signature = (parse other).signature ↔ tag = parse other

/-- Raw text names tags in normal form, and a tag is in normal form when its signature, taken as
raw text, names it. Such tags are told apart by their signatures, and all of them are valid but
those without a key. -/
theorem parse_normalizes (raw : String) :
    NamedBy raw (parse raw) ∧ ∀ tag : Tag, tag.Normal ↔ parse tag.signature.text = tag := by
  refine ⟨⟨normal_parse raw, (normal_parse raw).parse_signature, ?_, ?_, ?_⟩,
    fun _ => normal_iff_parse_signature⟩
  · have named : (parse raw).key ≠ "" ↔
        ∃ character ∈ raw.toList.takeWhile (· != ':'), Text.isBlank character = false := by
      rw [ne_eq, key_parse_eq_empty_iff]
      push Not
      simp only [ne_eq, Bool.not_eq_true]
    rw [← named]
    constructor
    · intro checked
      exact ((check_ok_iff _).mp checked).1
    · exact check_parse
  · intro fault refused
    by_cases empty : (parse raw).key = ""
    · have flawed : (parse raw).flaw? = some .emptyKey := if_pos empty
      rw [check, flawed, empty] at refused
      exact (Except.error.inj refused).symm
    · rw [check_parse empty] at refused
      cases refused
  · intro other
    constructor
    · intro same
      rw [← (normal_parse raw).parse_signature, same, (normal_parse other).parse_signature]
    · exact congrArg signature

/-- Only the first colon divides, and only the white space around the parts is dropped. -/
example : parse " a b : :c: " = .valued "a b" ":c:" := by
  rfl

end TagQuery.Tag
