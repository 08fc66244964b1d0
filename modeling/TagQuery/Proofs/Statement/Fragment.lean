import Mathlib.Data.List.Basic
import Mathlib.Data.List.TakeWhile
import TagQuery.Proofs.Number.Decimal
import TagQuery.Proofs.Statement.Scan

/-! Pieces of statement text: the slots they have, and the characters outside of slots. -/

namespace TagQuery

/-- The names of the slots of a text from left to right, repeated ones included. -/
def slots (text : String) : List String :=
  (Lexeme.scan false text.toList).filterMap Lexeme.name?

/-- A text that closes its literals and has slots of the given names, and only allowed
characters beside them. -/
structure Fragment (allowed : Char → Bool) (text : String) (names : List String) : Prop where
  closed : Lexeme.quotedAfter false text.toList = false
  slots_eq : slots text = names
  plain : ∀ character, .plain character ∈ Lexeme.scan false text.toList → allowed character

/-- A fragment, whatever its slots are. -/
abbrev Sealed (allowed : Char → Bool) (text : String) : Prop :=
  Fragment allowed text (slots text)

/-- No slot goes on from one text into the next. -/
def Apart (left right : String) : Prop :=
  left.toList.getLast?.any Lexeme.isSlotCharacter = false ∨
    right.toList.head?.any Text.isIdentifierRest = false

instance (left right : String) : Decidable (Apart left right) :=
  inferInstanceAs (Decidable (_ ∨ _))

/-- The characters of names, numbers, keywords, operators and literals. -/
def isUsual (character : Char) : Bool :=
  Text.isNameCharacter character || " ,()=*>-'\\".toList.contains character

/-- A text of usual characters without literals. -/
def Plain (text : String) : Prop :=
  text.toList.all fun character => isUsual character && character != '\''

instance (text : String) : Decidable (Plain text) := inferInstanceAs (Decidable (_ = true))

/-- A plain text that a slot may follow. -/
def Leads (text : String) : Prop :=
  Plain text ∧ text.toList.getLast?.any fun last => !Lexeme.isSlotCharacter last

instance (text : String) : Decidable (Leads text) := inferInstanceAs (Decidable (_ ∧ _))

/-- A plain text that slots may stand on both sides of. -/
def Divides (text : String) : Prop :=
  Leads text ∧ text.toList.head?.any fun first => !Text.isIdentifierRest first

instance (text : String) : Decidable (Divides text) := inferInstanceAs (Decidable (_ ∧ _))

namespace Leads

variable {text : String} (leads : Leads text)
include leads

theorem ends : text.toList.getLast?.any Lexeme.isSlotCharacter = false := by
  have last := leads.2
  cases shown : text.toList.getLast? with
  | none => rfl
  | some character => simpa [shown] using last

theorem apart (left right : String) : Apart (left ++ text) right := by
  have filled : text.toList ≠ [] := by
    intro empty
    simp [Leads, empty] at leads
  left
  rw [String.toList_append, List.getLast?_append_of_ne_nil _ filled]
  exact leads.ends

end Leads

theorem Divides.opens {text : String} (divides : Divides text) :
    text.toList.head?.any Text.isIdentifierRest = false := by
  have first := divides.2
  cases shown : text.toList.head? with
  | none => rfl
  | some character => simpa [shown] using first

namespace Plain

theorem append_iff {left right : String} : Plain (left ++ right) ↔ Plain left ∧ Plain right := by
  simp only [Plain, String.toList_append, List.all_append, Bool.and_eq_true]

theorem of_names {text : String} (names : text.toList.all Text.isNameCharacter) : Plain text := by
  apply List.all_eq_true.mpr
  intro character member
  have name := List.all_eq_true.mp names character member
  have visible : character ≠ '\'' := by
    rintro rfl
    exact absurd name (by decide)
  simp [isUsual, name, visible]

theorem of_isQualifiedIdentifier {name : String} (valid : Text.isQualifiedIdentifier name) :
    Plain name :=
  of_names (Text.all_isNameCharacter valid)

theorem of_digits {text : String} (digits : text.toList.all Char.isDigit) : Plain text := by
  refine of_names (List.all_eq_true.mpr fun character member => ?_)
  have digit := List.all_eq_true.mp digits character member
  simp [Text.isNameCharacter, Number.isIdentifierRest_of_isDigit digit]

theorem writeInt64 (value : Int64) : Plain (Number.writeInt64 value) := by
  have digits (number : Nat) : Plain (String.ofList (Nat.toDigits 10 number)) :=
    of_digits (Number.all_isDigit_writeNat number)
  unfold Number.writeInt64 Number.writeInt
  split
  · exact digits _
  · next before _ =>
    have sign : Plain "-" := by decide
    simpa [Plain] using append_iff.mpr ⟨sign, digits (before + 1)⟩

end Plain

namespace Fragment

variable {allowed : Char → Bool} {left right text : String} {first second names : List String}

theorem sealed (fragment : Fragment allowed text names) : Sealed allowed text where
  closed := fragment.closed
  slots_eq := rfl
  plain := fragment.plain

theorem append (one : Fragment allowed left first) (other : Fragment allowed right second)
    (apart : Apart left right) : Fragment allowed (left ++ right) (first ++ second) := by
  have cut := Lexeme.scan_append apart false
  rw [one.closed] at cut
  refine ⟨?_, ?_, ?_⟩
  · rw [String.toList_append, Lexeme.quotedAfter_append, one.closed, other.closed]
  · rw [slots, String.toList_append, cut, List.filterMap_append]
    rw [← one.slots_eq, ← other.slots_eq, slots, slots]
  · intro character member
    rw [String.toList_append, cut, List.mem_append] at member
    exact member.elim (one.plain character) (other.plain character)

/-- A text without a dollar sign has no slots. -/
theorem of_no_dollar (free : '$' ∉ text.toList) (allows : ∀ character ∈ text.toList, allowed character)
    (closed : Lexeme.quotedAfter false text.toList = false) : Fragment allowed text [] where
  closed := closed
  slots_eq := by
    rw [slots, Lexeme.scan_of_no_dollar free, List.filterMap_map, List.filterMap_eq_nil_iff]
    intro _ _
    rfl
  plain := by
    intro character member
    rw [Lexeme.scan_of_no_dollar free] at member
    exact allows character (by simpa using member)

section Usual

variable (permits : ∀ character, isUsual character → allowed character)
include permits

/-- Text of usual characters that closes its literals has no slots. -/
theorem of_usual (usual : text.toList.all isUsual)
    (closed : Lexeme.quotedAfter false text.toList = false) : Fragment allowed text [] := by
  rw [List.all_eq_true] at usual
  refine .of_no_dollar (fun member => ?_) (fun _ member => permits _ (usual _ member)) closed
  exact absurd (usual _ member) (by decide)

theorem of_plain (plain : Plain text) : Fragment allowed text [] := by
  have each {character : Char} (member : character ∈ text.toList) :
      isUsual character = true ∧ character ≠ '\'' := by
    simpa using List.all_eq_true.mp plain character member
  refine of_usual permits (List.all_eq_true.mpr fun _ member => (each member).1) ?_
  exact Lexeme.quotedAfter_of_no_quote fun member => (each member).2 rfl

end Usual

/-- A dollar sign and an identifier are one slot. -/
theorem slot {name : String} (identifier : Text.isIdentifier name.toList) :
    Fragment allowed ("$" ++ name) [name] := by
  have rest := List.all_eq_true.mp (Text.all_isIdentifierRest identifier)
  have scanned : Lexeme.scan false ("$" ++ name).toList = [.slot name.toList] := by
    cases characters : name.toList with
    | nil => simp [characters, Text.isIdentifier] at identifier
    | cons first more =>
      rw [characters] at identifier rest
      have start : Text.isIdentifierStart first := by
        simp only [Text.isIdentifier, Bool.and_eq_true] at identifier
        exact identifier.1
      have whole : ∀ character ∈ more, Text.isIdentifierRest character := fun _ member =>
        rest _ (List.mem_cons_of_mem _ member)
      have shown : ("$" ++ name).toList = '$' :: first :: more := by
        rw [String.toList_append, characters]
        rfl
      rw [shown, Lexeme.scan_slot start, List.takeWhile_eq_self_iff.mpr whole,
        List.dropWhile_eq_nil_iff.mpr whole, Lexeme.scan]
  refine ⟨?_, ?_, ?_⟩
  · have visible : '\'' ∉ ("$" ++ name).toList := by
      rw [String.toList_append, List.mem_append, not_or]
      exact ⟨by decide, fun member => absurd (rest _ member) (by decide)⟩
    exact Lexeme.quotedAfter_of_no_quote visible
  · rw [slots, scanned]
    simp [Lexeme.name?]
  · rw [scanned]
    simp

section Joining

variable (permits : ∀ character, isUsual character → allowed character)
include permits

theorem preceded {before : String} (leads : Leads before) (fragment : Fragment allowed text names) :
    Fragment allowed (before ++ text) names :=
  (of_plain permits leads.1).append fragment (.inl leads.ends)

theorem joined {between : String} (divides : Divides between) (one : Fragment allowed left first)
    (other : Fragment allowed right second) :
    Fragment allowed (left ++ between ++ right) (first ++ second) := by
  have start := one.append (of_plain permits divides.1.1) (.inr divides.opens)
  rw [List.append_nil] at start
  exact start.append other (divides.1.apart left right)

theorem enclosed (fragment : Fragment allowed text names) :
    Fragment allowed ("(" ++ text ++ ")") names := by
  have opening : Leads "(" := by decide
  have closing : Fragment allowed ")" [] := of_plain permits (by decide)
  have whole := (preceded permits opening fragment).append closing (.inr rfl)
  rwa [List.append_nil] at whole

theorem intercalate {separator : String} {pieces : List String} (divides : Divides separator)
    (pieces_sealed : ∀ piece ∈ pieces, Sealed allowed piece) :
    Fragment allowed (separator.intercalate pieces) (pieces.flatMap slots) := by
  induction pieces with
  | nil => exact of_plain permits rfl
  | cons first rest ih =>
    have head := pieces_sealed first List.mem_cons_self
    have tail := ih fun piece member => pieces_sealed piece (List.mem_cons_of_mem _ member)
    cases rest with
    | nil => simpa using head
    | cons second rest =>
      rw [String.intercalate_cons_cons, List.flatMap_cons]
      exact joined permits divides head tail

end Joining

end Fragment

end TagQuery
