import TagQuery.Text.Identifier

/-! The parts of a text between separators, and the characters of identifiers, plain and
qualified. -/

namespace TagQuery

namespace Text

/-- Parts are what the library splits lists into. -/
theorem splitOnChar_eq_splitOn (separator : Char) (text : List Char) :
    splitOnChar separator text = text.splitOn separator := by
  induction text with
  | nil => rfl
  | cons first rest ih =>
    rw [splitOnChar, List.splitOn_cons_eq_if_modifyHead, ih]
    by_cases same : first = separator
    · simp [same]
    · rw [if_neg same, if_neg (by simpa using same)]
      cases parts : rest.splitOn separator with
      | nil => exact absurd parts (List.splitOn_ne_nil _ _)
      | cons part others => rfl

/-- A character of a qualified identifier. -/
def isNameCharacter (character : Char) : Bool :=
  isIdentifierRest character || character == '.'

private theorem all_of_splitOnChar {separator : Char} {holds : Char → Bool} {text : List Char}
    (parts : ∀ part ∈ splitOnChar separator text, part.all holds) :
    text.all fun character => holds character || character == separator := by
  induction text with
  | nil => rfl
  | cons first rest ih =>
    by_cases same : first = separator
    · have later := ih fun part member => parts part (by simp [splitOnChar, same, member])
      simpa [same] using later
    · rcases split : splitOnChar separator rest with _ | ⟨part, others⟩
      · have whole := parts [first] (by simp [splitOnChar, same, split])
        have later := ih (by simp [split])
        simp_all
      · have whole := parts (first :: part) (by simp [splitOnChar, same, split])
        simp only [List.all_cons, Bool.and_eq_true] at whole
        have later := ih (by
          intro other member
          rw [split] at member
          rcases List.mem_cons.mp member with here | further
          · exact here ▸ whole.2
          · exact parts other (by simp [splitOnChar, same, split, further]))
        simp only [List.all_cons, whole.1, Bool.true_or, Bool.true_and]
        exact later

theorem isIdentifierRest_of_isIdentifierStart {character : Char}
    (start : isIdentifierStart character) : isIdentifierRest character := by
  simp only [isIdentifierStart, isIdentifierRest, Char.isAlphanum, Bool.or_eq_true] at start ⊢
  rcases start with letter | underscore
  · exact .inl (.inl letter)
  · exact .inr underscore

theorem all_isIdentifierRest {identifier : List Char} (valid : isIdentifier identifier) :
    identifier.all isIdentifierRest := by
  cases identifier with
  | nil => rfl
  | cons first rest =>
    simp only [isIdentifier, Bool.and_eq_true] at valid
    simp [isIdentifierRest_of_isIdentifierStart valid.1, valid.2]

theorem all_isNameCharacter {name : String} (valid : isQualifiedIdentifier name) :
    name.toList.all isNameCharacter :=
  all_of_splitOnChar fun _ member => all_isIdentifierRest (List.all_eq_true.mp valid _ member)

theorem toList_ne_nil {name : String} (valid : isQualifiedIdentifier name) : name.toList ≠ [] := by
  intro empty
  simp [isQualifiedIdentifier, empty, splitOnChar, isIdentifier] at valid

end Text

end TagQuery
