import TagQuery.Proofs.Text.Names

/-! The grammar of identifiers, plain and qualified, and that the recognisers accept what it
allows and nothing else. -/

namespace TagQuery.Text

/-- A letter of ASCII or an underscore. -/
def Initial (character : Char) : Prop :=
  'A' ≤ character ∧ character ≤ 'Z' ∨ 'a' ≤ character ∧ character ≤ 'z' ∨ character = '_'

/-- A letter or a digit of ASCII or an underscore. -/
def Further (character : Char) : Prop :=
  Initial character ∨ '0' ≤ character ∧ character ≤ '9'

inductive Identifier : List Char → Prop
  | mk {first : Char} {rest : List Char} : Initial first →
    (∀ character ∈ rest, Further character) → Identifier (first :: rest)

/-- No dot stands at an end of the text or beside another dot. -/
structure DotsApart (text : List Char) : Prop where
  leading : ¬ ['.'] <+: text
  trailing : ¬ ['.'] <:+ text
  doubled : ¬ ['.', '.'] <:+: text

/-- One or more identifiers with single dots between them. -/
structure Qualified (name : String) : Prop extends DotsApart name.toList where
  parts : ∃ parts, parts ≠ [] ∧ (∀ part ∈ parts, Identifier part) ∧
    name.toList = ['.'].intercalate parts

section Plain

private theorem isAlpha_iff {character : Char} : character.isAlpha ↔
    'A' ≤ character ∧ character ≤ 'Z' ∨ 'a' ≤ character ∧ character ≤ 'z' := by
  change (decide ('A' ≤ character ∧ character ≤ 'Z') ||
    decide ('a' ≤ character) && decide (character ≤ 'z')) = true ↔ _
  simp

private theorem isDigit_iff {character : Char} :
    character.isDigit ↔ '0' ≤ character ∧ character ≤ '9' := by
  change (decide ('0' ≤ character) && decide (character ≤ '9')) = true ↔ _
  simp

theorem isIdentifierStart_iff {character : Char} :
    isIdentifierStart character ↔ Initial character := by
  rw [isIdentifierStart, Bool.or_eq_true, isAlpha_iff, beq_iff_eq, or_assoc]
  exact Iff.rfl

theorem isIdentifierRest_iff {character : Char} :
    isIdentifierRest character ↔ Further character := by
  rw [Further, ← isIdentifierStart_iff, ← isDigit_iff]
  simp only [isIdentifierRest, isIdentifierStart, Char.isAlphanum, Bool.or_eq_true]
  exact or_right_comm

theorem isIdentifier_iff {text : List Char} : isIdentifier text ↔ Identifier text := by
  cases text with
  | nil => exact ⟨nofun, nofun⟩
  | cons first rest =>
    rw [isIdentifier, Bool.and_eq_true, isIdentifierStart_iff, List.all_eq_true]
    constructor
    · intro spelled
      obtain ⟨start, later⟩ := spelled
      exact .mk start fun character member => isIdentifierRest_iff.mp (later character member)
    · intro spelled
      cases spelled with
      | mk start later =>
        exact ⟨start, fun character member => isIdentifierRest_iff.mpr (later character member)⟩

theorem Identifier.ne_nil {part : List Char} (spelled : Identifier part) : part ≠ [] := by
  cases spelled
  exact List.cons_ne_nil _ _

theorem Identifier.dot_not_mem {part : List Char} (spelled : Identifier part) : '.' ∉ part := by
  intro member
  have allowed := List.all_eq_true.mp (all_isIdentifierRest (isIdentifier_iff.mpr spelled)) _ member
  exact absurd allowed (by decide)

end Plain

/-- A dot at an end or beside another one would leave an empty part. -/
theorem DotsApart.of_parts {text : List Char} (filled : ∀ part ∈ text.splitOn '.', part ≠ []) :
    DotsApart text where
  leading := by
    intro starts
    obtain ⟨rest, split⟩ := starts
    rw [← split, List.singleton_append, ← List.nil_append ('.' :: rest),
      List.splitOn_append_cons_self] at filled
    exact filled [] (by simp) rfl
  trailing := by
    intro ends
    obtain ⟨before, split⟩ := ends
    rw [← split, List.splitOn_append_cons_self] at filled
    exact filled [] (by simp) rfl
  doubled := by
    intro beside
    obtain ⟨before, after, split⟩ := beside
    -- Between the two dots there is a part with nothing in it.
    have apart : before ++ ['.', '.'] ++ after = before ++ '.' :: ([] ++ '.' :: after) := by simp
    rw [← split, apart, List.splitOn_append_cons_self, List.splitOn_append_cons_self] at filled
    exact filled [] (by simp) rfl

theorem isQualifiedIdentifier_iff {name : String} :
    isQualifiedIdentifier name ↔ Qualified name := by
  rw [isQualifiedIdentifier, splitOnChar_eq_splitOn, List.all_eq_true]
  constructor
  · intro valid
    have spelled : ∀ part ∈ name.toList.splitOn '.', Identifier part :=
      fun part member => isIdentifier_iff.mp (valid part member)
    exact {
      toDotsApart := .of_parts fun part member => (spelled part member).ne_nil
      parts := ⟨_, List.splitOn_ne_nil _ _, spelled, (List.intercalate_splitOn '.').symm⟩ }
  · intro qualified
    obtain ⟨parts, some, spelled, joined⟩ := qualified.parts
    -- No part has a dot of its own, so splitting finds the parts again.
    have split : name.toList.splitOn '.' = parts := by
      rw [joined]
      exact List.splitOn_intercalate '.' (fun part member => (spelled part member).dot_not_mem) some
    intro part member
    rw [split] at member
    exact isIdentifier_iff.mpr (spelled part member)

end TagQuery.Text
