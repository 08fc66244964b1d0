import Mathlib.Data.List.DropRight
import TagQuery.Proofs.List.Runs
import TagQuery.Text.Blank

/-! Text without the white space around it. -/

namespace TagQuery.Text

variable {characters : List Char}

/-- No white space at either end. Text without a character has none. -/
structure Trimmed (characters : List Char) : Prop where
  first : characters.head?.any isBlank = false
  last : characters.getLast?.any isBlank = false

/-- What is left after a run of white space does not begin with any. -/
private theorem first_dropWhile (characters : List Char) :
    (characters.dropWhile isBlank).head?.any isBlank = false := by
  have stopped := List.head?_dropWhile_not isBlank characters
  cases first : (characters.dropWhile isBlank).head? with
  | none => rfl
  | some character =>
    rw [first] at stopped
    exact stopped

theorem trimmed_trimChars (characters : List Char) : Trimmed (trimChars characters) where
  first := by
    -- What the second run leaves is where the first one stopped, or nothing.
    have before : trimChars characters <+: characters.dropWhile isBlank :=
      List.rdropWhile_prefix isBlank _
    obtain ⟨dropped, split⟩ := before
    have stopped := first_dropWhile characters
    rw [← split] at stopped
    cases left : trimChars characters with
    | nil => rfl
    | cons character rest =>
      rw [left] at stopped
      exact stopped
  last := by
    rw [trimChars, List.getLast?_reverse]
    exact first_dropWhile _

theorem trimChars_of_trimmed (trimmed : Trimmed characters) : trimChars characters = characters := by
  have last : characters.reverse.head?.any isBlank = false := by
    rw [List.head?_reverse]
    exact trimmed.last
  rw [trimChars, (span_of_stop trimmed.first).2, (span_of_stop last).2, List.reverse_reverse]

theorem trimChars_subset (characters : List Char) : trimChars characters ⊆ characters := by
  intro character member
  rw [trimChars, List.mem_reverse] at member
  have inside := (List.dropWhile_sublist isBlank).subset member
  exact (List.dropWhile_sublist isBlank).subset (List.mem_reverse.mp inside)

/-- Nothing is left of white space, and something of any other text. -/
theorem trimChars_eq_nil_iff :
    trimChars characters = [] ↔ ∀ character ∈ characters, isBlank character = true := by
  have trimmed : trimChars characters = (characters.dropWhile isBlank).rdropWhile isBlank := rfl
  rw [trimmed, List.rdropWhile_eq_nil_iff]
  constructor
  · intro rest character member
    rw [← List.takeWhile_append_dropWhile (p := isBlank) (l := characters)] at member
    rcases List.mem_append.mp member with skipped | left
    · exact List.all_eq_true.mp List.all_takeWhile character skipped
    · exact rest character left
  · intro blank character member
    exact blank character ((List.dropWhile_sublist isBlank).subset member)

end TagQuery.Text
