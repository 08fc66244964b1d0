import TagQuery.Number.Decimal
import TagQuery.Text.Identifier

/-! Decimal text: its characters, and reading back what was written. -/

namespace TagQuery

namespace Number

theorem all_isDigit_writeNat (value : Nat) : (writeNat value).toList.all Char.isDigit := by
  rw [writeNat, String.toList_ofList, List.all_eq_true]
  intro character member
  exact Nat.isDigit_of_mem_toDigits (by decide) (by decide) member

/-- The characters of a whole number. -/
def isNumeral (character : Char) : Bool :=
  character.isDigit || character == '-'

theorem all_isNumeral_writeInt64 (value : Int64) : (writeInt64 value).toList.all isNumeral := by
  have digits (number : Nat) : (Nat.toDigits 10 number).all isNumeral := by
    apply List.all_eq_true.mpr
    intro character member
    have digit := Nat.isDigit_of_mem_toDigits (by decide) (by decide) member
    simp [isNumeral, digit]
  unfold writeInt64 writeInt
  split
  · rw [String.toList_ofList]
    exact digits _
  · rw [String.toList_ofList, List.all_cons, digits]
    rfl

theorem writeNat_injective : Function.Injective writeNat := by
  intro first second same
  have digits : Nat.toDigits 10 first = Nat.toDigits 10 second := by
    simpa [writeNat] using congrArg String.toList same
  have values := congrArg (Nat.ofDigitChars 10 · 0) digits
  simpa [Nat.ofDigitChars_ten_toDigits] using values

/-- Reading takes back what writing gave. -/
theorem readDigits?_toDigits (value : Nat) : readDigits? (Nat.toDigits 10 value) = some value := by
  have filled : (Nat.toDigits 10 value).isEmpty = false := by
    simp
  have digits : (Nat.toDigits 10 value).all Char.isDigit := by
    simpa [writeNat] using all_isDigit_writeNat value
  rw [readDigits?, filled, digits, Nat.ofDigitChars_ten_toDigits]
  rfl

theorem readInt?_writeInt (value : Int) : readInt? (writeInt value) = some value := by
  cases value with
  | ofNat magnitude =>
    have digits : (Nat.toDigits 10 magnitude).all Char.isDigit := by
      simpa [writeNat] using all_isDigit_writeNat magnitude
    rw [writeInt, readInt?, String.toList_ofList]
    -- A number that is not negative begins with a digit, so neither sign is found.
    split
    · next rest shown => simp [shown, show ('-').isDigit = false from rfl] at digits
    · next rest shown => simp [shown, show ('+').isDigit = false from rfl] at digits
    · rw [readDigits?_toDigits]
      rfl
  | negSucc before =>
    rw [writeInt, readInt?, String.toList_ofList]
    simp only [readDigits?_toDigits]
    rfl

theorem readInt64?_writeInt64 (value : Int64) : readInt64? (writeInt64 value) = some value := by
  have low := value.minValue_le_toInt
  have high := value.toInt_le
  rw [writeInt64, readInt64?, readInt?_writeInt]
  simp only [low, high, and_self, ↓reduceIte, Int64.ofInt_toInt]

theorem isIdentifierRest_of_isDigit {character : Char} (digit : character.isDigit) :
    Text.isIdentifierRest character := by
  simp [Text.isIdentifierRest, Char.isAlphanum, digit]

/-- Digits stand before all letters and the underscore. -/
theorem isIdentifierStart_of_isDigit {character : Char} (digit : character.isDigit) :
    Text.isIdentifierStart character = false := by
  have low : character.toNat ≤ '9'.toNat :=
    UInt32.le_iff_toNat_le.mp (of_decide_eq_true (Bool.and_eq_true_iff.mp digit).2)
  refine Bool.eq_false_iff.mpr fun start => ?_
  rcases Bool.or_eq_true_iff.mp start with letter | underscore
  · rcases Bool.or_eq_true_iff.mp letter with upper | lower
    · have high := UInt32.le_iff_toNat_le.mp (of_decide_eq_true upper).1
      exact absurd (Nat.le_trans high low) (by decide)
    · have high := UInt32.le_iff_toNat_le.mp
        (of_decide_eq_true (Bool.and_eq_true_iff.mp lower).1)
      exact absurd (Nat.le_trans high low) (by decide)
  · rw [beq_iff_eq.mp underscore] at digit
    exact absurd digit (by decide)

end Number

end TagQuery
