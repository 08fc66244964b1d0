import Mathlib.Data.List.Forall2
import Mathlib.Data.List.Infix
import TagQuery.Statement.Pattern

/-! What patterns match. The pattern made for a text matches the texts that contain it, and no
others: its own characters lose the meaning that they have in patterns. -/

namespace TagQuery

/-- Some run of the characters of `whole` is like `part`, one character after the other. -/
def Text.Contains (alike : Char → Char → Bool) (whole part : String) : Prop :=
  ∃ before run after, whole.toList = before ++ (run ++ after) ∧
    List.Forall₂ (fun expected found => alike expected found) part.toList run

namespace Pattern

/-- What a pattern asks for at one of its places. -/
inductive Part where
  | anyText
  | anyCharacter
  | character (expected : Char)
deriving DecidableEq, Repr

/-- The parts of a pattern. Whatever stands after the escape character stands for itself, and
where nothing does the text is no pattern. -/
def parts? (escape : Char) : List Char → Option (List Part)
  | [] => some []
  | first :: rest =>
    if first = escape then
      match rest with
      | [] => none
      | second :: rest => (parts? escape rest).map (.character second :: ·)
    else if first = '%' then (parts? escape rest).map (.anyText :: ·)
    else if first = '_' then (parts? escape rest).map (.anyCharacter :: ·)
    else (parts? escape rest).map (.character first :: ·)

/-- Whether a pattern matches all of a text. Any text may be matched by each end of what is left. -/
def admits (alike : Char → Char → Bool) : List Part → List Char → Bool
  | [], text => text.isEmpty
  | .anyText :: parts, text => text.tails.any fun later => admits alike parts later
  | .anyCharacter :: parts, text =>
    match text with
    | [] => false
    | _ :: text => admits alike parts text
  | .character expected :: parts, text =>
    match text with
    | [] => false
    | found :: text => alike expected found && admits alike parts text

/-- The parts of the pattern of the texts that contain a given one. -/
def containingParts (text : String) : List Part :=
  .anyText :: (text.toList.map .character ++ [.anyText])

/-- An escaped character stands for itself in front of any pattern. -/
theorem parts?_escaped (character : Char) (rest : List Char) :
    parts? '\\' (escaped character ++ rest) =
      (parts? '\\' rest).map (.character character :: ·) := by
  by_cases special : isSpecial character
  · rw [escaped, if_pos special]
    rfl
  · have apart : character ≠ '\\' ∧ character ≠ '%' ∧ character ≠ '_' := by
      simpa [isSpecial, and_assoc] using special
    rw [escaped, if_neg special, List.singleton_append, parts?.eq_def]
    simp only [apart, if_false]

theorem parts?_flatMap_escaped (text rest : List Char) :
    parts? '\\' (text.flatMap escaped ++ rest) =
      (parts? '\\' rest).map (text.map .character ++ ·) := by
  induction text with
  | nil => exact Option.map_id'.symm
  | cons first text ih =>
    rw [List.flatMap_cons, List.append_assoc, parts?_escaped, ih, Option.map_map]
    rfl

theorem parts?_containing (text : String) :
    parts? '\\' (containing text).toList = some (containingParts text) := by
  have inner : parts? '\\' (text.toList.flatMap escaped ++ ['%']) =
      some (text.toList.map .character ++ [.anyText]) := by
    rw [parts?_flatMap_escaped]
    rfl
  rw [containing, String.toList_ofList, List.cons_append, parts?.eq_def]
  simp [inner, containingParts]

variable {alike : Char → Char → Bool} {parts : List Part} {text : List Char}

theorem admits_anyText_iff : admits alike (.anyText :: parts) text ↔
    ∃ skipped later, text = skipped ++ later ∧ admits alike parts later := by
  rw [admits, List.any_eq_true]
  constructor
  · rintro ⟨later, ends, admitted⟩
    obtain ⟨skipped, rfl⟩ := (List.mem_tails _ _).mp ends
    exact ⟨skipped, later, rfl, admitted⟩
  · rintro ⟨skipped, later, rfl, admitted⟩
    exact ⟨later, (List.mem_tails _ _).mpr (List.suffix_append skipped later), admitted⟩

/-- Given characters are matched by a run of characters like them. -/
theorem admits_characters_iff {expected : List Char} :
    admits alike (expected.map .character ++ parts) text ↔
      ∃ run later, text = run ++ later ∧
        List.Forall₂ (fun expected found => alike expected found) expected run ∧
        admits alike parts later := by
  induction expected generalizing text with
  | nil =>
    constructor
    · exact fun admitted => ⟨[], text, rfl, .nil, admitted⟩
    · rintro ⟨_, later, rfl, ⟨⟩, admitted⟩
      exact admitted
  | cons first expected ih =>
    cases text with
    | nil =>
      refine iff_of_false Bool.false_ne_true ?_
      rintro ⟨_, _, none, some, _⟩
      cases some
      cases none
    | cons found text =>
      rw [List.map_cons, List.cons_append, admits, Bool.and_eq_true, ih]
      constructor
      · rintro ⟨like, run, later, rfl, runs, admitted⟩
        exact ⟨found :: run, later, rfl, .cons like runs, admitted⟩
      · rintro ⟨_, later, split, _ | ⟨like, runs⟩, admitted⟩
        obtain ⟨rfl, rfl⟩ := List.cons.inj split
        exact ⟨like, _, later, rfl, runs, admitted⟩

theorem admits_containingParts_iff {whole part : String} :
    admits alike (containingParts part) whole.toList ↔ Text.Contains alike whole part := by
  have rest (later : List Char) : admits alike [.anyText] later := by
    rw [admits_anyText_iff]
    exact ⟨later, [], (List.append_nil _).symm, rfl⟩
  rw [containingParts, admits_anyText_iff]
  constructor
  · rintro ⟨before, _, split, admitted⟩
    obtain ⟨run, after, rfl, runs, _⟩ := admits_characters_iff.mp admitted
    exact ⟨before, run, after, split, runs⟩
  · rintro ⟨before, run, after, split, runs⟩
    exact ⟨before, run ++ after, split, admits_characters_iff.mpr ⟨run, after, rfl, runs, rest after⟩⟩

end Pattern

instance (alike : Char → Char → Bool) (whole part : String) :
    Decidable (Text.Contains alike whole part) :=
  decidable_of_iff (Pattern.admits alike (Pattern.containingParts part) whole.toList)
    Pattern.admits_containingParts_iff

end TagQuery
