import TagQuery.Proofs.List.Runs
import TagQuery.Text.Identifier

/-! The bytes of text. A character of ASCII is one byte, and no byte of any other character is
one that ASCII has. -/

namespace TagQuery.Text

/-- The bytes of text in UTF-8. -/
def bytes (text : String) : List UInt8 :=
  text.toByteArray.data.toList

theorem bytes_eq (text : String) : bytes text = text.toList.flatMap String.utf8EncodeChar := by
  rw [bytes, ← String.utf8Encode_toList, List.utf8Encode, List.toList_data_toByteArray]

theorem bytes_ofList (characters : List Char) :
    bytes (String.ofList characters) = characters.flatMap String.utf8EncodeChar := by
  rw [bytes_eq, String.toList_ofList]

theorem bytes_injective {first second : String} (same : bytes first = bytes second) :
    first = second := by
  apply String.toByteArray_inj.mp
  apply ByteArray.ext
  exact Array.toList_inj.mp same

/-- The characters that are one byte each. -/
def isAscii (character : Char) : Bool := decide (character.toNat < 128)

theorem isAscii_of_isIdentifierRest (character : Char) (name : isIdentifierRest character) :
    isAscii character := by
  have bound (limit : UInt32) (small : limit.toNat < 128) (below : character.val ≤ limit) :
      isAscii character :=
    decide_eq_true (Nat.lt_of_le_of_lt (UInt32.le_iff_toNat_le.mp below) small)
  rcases Bool.or_eq_true_iff.mp name with letterOrDigit | underscore
  · rcases Bool.or_eq_true_iff.mp letterOrDigit with letter | digit
    · rcases Bool.or_eq_true_iff.mp letter with upper | lower
      · exact bound 'Z'.val (by decide) (of_decide_eq_true upper).2
      · exact bound 'z'.val (by decide) (of_decide_eq_true (Bool.and_eq_true_iff.mp lower).2)
    · exact bound '9'.val (by decide) (of_decide_eq_true (Bool.and_eq_true_iff.mp digit).2)
  · rw [beq_iff_eq.mp underscore]
    rfl

theorem utf8EncodeChar_of_isAscii {character : Char} (ascii : isAscii character) :
    ∃ byte, String.utf8EncodeChar character = [byte] ∧ Char.ofUInt8 byte = character := by
  have small : character.val.toNat ≤ 127 := Nat.le_of_lt_succ (of_decide_eq_true ascii)
  refine ⟨.ofNat character.val.toNat, if_pos small, ?_⟩
  apply Char.ext
  apply UInt32.toNat_inj.mp
  exact Nat.mod_eq_of_lt (Nat.lt_of_le_of_lt small (by decide))

private theorem high_ofNat {low size offset : Nat} (above : 128 ≤ offset) (filled : 0 < size)
    (fits : size + offset ≤ 256) : 128 ≤ (UInt8.ofNat (low % size + offset)).toNat := by
  have below : low % size < size := Nat.mod_lt low filled
  have bound : low % size + offset < 256 := by omega
  rw [UInt8.toNat_ofNat', Nat.mod_eq_of_lt bound]
  omega

private theorem high_of_mem_utf8EncodeChar {character : Char} (wide : isAscii character = false)
    {byte : UInt8} (member : byte ∈ String.utf8EncodeChar character) : 128 ≤ byte.toNat := by
  have above : ¬ character.val.toNat ≤ 127 :=
    fun small => of_decide_eq_false wide (Nat.lt_succ_of_le small)
  unfold String.utf8EncodeChar at member
  dsimp only at member
  rw [if_neg above] at member
  split at member
  · simp only [List.mem_cons, List.not_mem_nil, or_false] at member
    rcases member with rfl | rfl <;> exact high_ofNat (by decide) (by decide) (by decide)
  · split at member
    · simp only [List.mem_cons, List.not_mem_nil, or_false] at member
      rcases member with rfl | rfl | rfl <;> exact high_ofNat (by decide) (by decide) (by decide)
    · simp only [List.mem_cons, List.not_mem_nil, or_false] at member
      rcases member with rfl | rfl | rfl | rfl <;>
        exact high_ofNat (by decide) (by decide) (by decide)

/-- A byte of a character that fits is all of it, when only ASCII fits. -/
theorem of_mem_utf8EncodeChar {fits : Char → Bool} (ascii : ∀ character, fits character → isAscii character)
    {character : Char} {byte : UInt8} (member : byte ∈ String.utf8EncodeChar character)
    (fit : fits (Char.ofUInt8 byte)) :
    String.utf8EncodeChar character = [byte] ∧ Char.ofUInt8 byte = character := by
  cases single : isAscii character with
  | true =>
    obtain ⟨only, encoded, shown⟩ := utf8EncodeChar_of_isAscii single
    rw [encoded, List.mem_singleton] at member
    subst member
    exact ⟨encoded, shown⟩
  | false =>
    have low : byte.toNat < 128 := of_decide_eq_true (ascii _ fit)
    exact absurd (high_of_mem_utf8EncodeChar single member) (by omega)

theorem eq_of_mem_utf8EncodeChar {character sign : Char} (ascii : isAscii sign) {byte : UInt8}
    (member : byte ∈ String.utf8EncodeChar character) (same : Char.ofUInt8 byte = sign) :
    character = sign := by
  have only : ∀ other, (other == sign) = true → isAscii other := by
    intro other equal
    rw [beq_iff_eq.mp equal]
    exact ascii
  obtain ⟨_, shown⟩ := of_mem_utf8EncodeChar only member (beq_iff_eq.mpr same)
  exact shown.symm.trans same

section Runs

variable {fits : Char → Bool} (ascii : ∀ character, fits character → isAscii character)
include ascii

theorem any_head?_bytes (characters : List Char) :
    (characters.flatMap String.utf8EncodeChar).head?.any (fun byte => fits (Char.ofUInt8 byte)) =
      characters.head?.any fits := by
  cases characters with
  | nil => rfl
  | cons first rest =>
    cases encoded : String.utf8EncodeChar first with
    | nil => exact absurd encoded String.utf8EncodeChar_ne_nil
    | cons byte more =>
      have head : byte ∈ String.utf8EncodeChar first := by simp [encoded]
      rw [List.flatMap_cons, encoded]
      by_cases fit : fits (Char.ofUInt8 byte)
      · obtain ⟨_, shown⟩ := of_mem_utf8EncodeChar ascii head fit
        simp [shown]
      · have unfit : fits first = false := by
          refine Bool.eq_false_iff.mpr fun fit' => ?_
          obtain ⟨only, single, shown⟩ := utf8EncodeChar_of_isAscii (ascii first fit')
          rw [single, List.mem_singleton] at head
          rw [head, shown] at fit
          exact fit fit'
        simp [fit, unfit]

/-- Runs of ASCII are the same of bytes and of characters. -/
theorem span_bytes (characters : List Char) :
    ((characters.flatMap String.utf8EncodeChar).takeWhile
        fun byte => fits (Char.ofUInt8 byte)).map Char.ofUInt8 = characters.takeWhile fits ∧
      (characters.flatMap String.utf8EncodeChar).dropWhile (fun byte => fits (Char.ofUInt8 byte)) =
        (characters.dropWhile fits).flatMap String.utf8EncodeChar := by
  induction characters with
  | nil => exact ⟨rfl, rfl⟩
  | cons first rest ih =>
    by_cases fit : fits first
    · obtain ⟨byte, single, shown⟩ := utf8EncodeChar_of_isAscii (ascii first fit)
      simp [single, shown, fit, ih]
    · have unfit : (first :: rest).head?.any fits = false := by simp [fit]
      have stop := (any_head?_bytes ascii (first :: rest)).trans unfit
      obtain ⟨taken, dropped⟩ := span_of_stop stop
      obtain ⟨taken', dropped'⟩ := span_of_stop unfit
      rw [taken, dropped, taken', dropped']
      exact ⟨rfl, rfl⟩

end Runs

end TagQuery.Text
