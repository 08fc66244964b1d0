import TagQuery.Executor.Run
import TagQuery.Proofs.Action.Outcome
import TagQuery.Proofs.Number.Decimal
import TagQuery.Proofs.Statement.Scan

/-! Text that stays within its lexical frame: it groups by balanced parentheses, quotes
nothing but the escape character of patterns, and holds nothing that could end a statement
or begin a comment. Binding keeps it there. -/

namespace TagQuery

/-- The parentheses that are open after text, unless one closes what was never opened. -/
def depthAfter? (depth : Nat) : List Char → Option Nat
  | [] => some depth
  | '(' :: rest => depthAfter? (depth + 1) rest
  | ')' :: rest =>
    match depth with
    | 0 => none
    | outer + 1 => depthAfter? outer rest
  | _ :: rest => depthAfter? depth rest

def Balanced (text : List Char) : Prop := depthAfter? 0 text = some 0

/-- What names the escape character of a pattern. -/
def escapeClause : String := " ESCAPE '\\'"

theorem escapeClause_toList : escapeClause.toList =
    [' ', 'E', 'S', 'C', 'A', 'P', 'E', ' ', '\'', '\\', '\''] := rfl

/-- A character that groups nothing, quotes nothing, ends no statement and begins no comment. -/
def isOrdinary (character : Char) : Bool :=
  Text.isNameCharacter character || " ,=*>$?".toList.contains character

/-- Text in its frame, with the number of open parentheses before it and after it. A minus
sign stands before a digit, and quotes stand in escape clauses where these are allowed. -/
inductive Frames (escapes : Bool) : Nat → Nat → List Char → Prop
  | done {depth : Nat} : Frames escapes depth depth []
  | ordinary {enter leave : Nat} {character : Char} {rest : List Char} :
    isOrdinary character → Frames escapes enter leave rest →
      Frames escapes enter leave (character :: rest)
  | opening {enter leave : Nat} {rest : List Char} :
    Frames escapes (enter + 1) leave rest → Frames escapes enter leave ('(' :: rest)
  | closing {enter leave : Nat} {rest : List Char} :
    Frames escapes enter leave rest → Frames escapes (enter + 1) leave (')' :: rest)
  | sign {enter leave : Nat} {digit : Char} {rest : List Char} : digit.isDigit →
    Frames escapes enter leave rest → Frames escapes enter leave ('-' :: digit :: rest)
  | escape {enter leave : Nat} {rest : List Char} : escapes = true →
    Frames escapes enter leave rest →
      Frames escapes enter leave (escapeClause.toList ++ rest)

/-- A text in its frame. -/
def Framed (escapes : Bool) (enter leave : Nat) (text : String) : Prop :=
  Frames escapes enter leave text.toList

/-- Ordinary characters and parentheses that lead from one depth to another. -/
def Calm (enter leave : Nat) (text : String) : Prop :=
  (text.toList.all fun character => isOrdinary character || "()".toList.contains character) ∧
    depthAfter? enter text.toList = some leave

instance (enter leave : Nat) (text : String) : Decidable (Calm enter leave text) :=
  inferInstanceAs (Decidable (_ ∧ _))

theorem isOrdinary_of_isDigit {character : Char} (digit : character.isDigit) :
    isOrdinary character := by
  simp [isOrdinary, Text.isNameCharacter, Number.isIdentifierRest_of_isDigit digit]

theorem ne_of_isOrdinary {character other : Char} (ordinary : isOrdinary character)
    (special : isOrdinary other = false) : other ≠ character := by
  rintro rfl
  rw [ordinary] at special
  cases special

/-- An ordinary character opens nothing and closes nothing. -/
theorem depthAfter?_ordinary {character : Char} (ordinary : isOrdinary character) (depth : Nat)
    (rest : List Char) : depthAfter? depth (character :: rest) = depthAfter? depth rest := by
  rw [depthAfter?]
  · exact (ne_of_isOrdinary ordinary (by decide)).symm
  · exact (ne_of_isOrdinary ordinary (by decide)).symm

namespace Frames

variable {escapes : Bool} {enter middle leave depth : Nat} {left right text : List Char}

theorem append (first : Frames escapes enter middle left) (second : Frames escapes middle leave right) :
    Frames escapes enter leave (left ++ right) := by
  induction first with
  | done => exact second
  | ordinary fits _ ih => exact .ordinary fits (ih second)
  | opening _ ih => exact .opening (ih second)
  | closing _ ih => exact .closing (ih second)
  | sign digit _ ih => exact .sign digit (ih second)
  | escape allowed _ ih =>
    rw [List.append_assoc]
    exact .escape allowed (ih second)

theorem of_ordinary (all : ∀ character ∈ text, isOrdinary character) :
    Frames escapes depth depth text := by
  induction text with
  | nil => exact .done
  | cons first rest ih =>
    obtain ⟨fits, others⟩ := List.forall_mem_cons.mp all
    exact .ordinary fits (ih others)

/-- The frame of a text can stand inside of others. -/
theorem deepen (outer : Nat) (framed : Frames escapes enter leave text) :
    Frames escapes (enter + outer) (leave + outer) text := by
  induction framed with
  | done => exact .done
  | ordinary fits _ ih => exact .ordinary fits ih
  | @opening enter _ _ _ ih =>
    rw [Nat.add_right_comm] at ih
    exact .opening ih
  | @closing enter _ _ _ ih =>
    rw [Nat.add_right_comm]
    exact .closing ih
  | sign digit _ ih => exact .sign digit ih
  | escape allowed _ ih => exact .escape allowed ih

end Frames

namespace Framed

variable {escapes : Bool} {enter middle leave depth : Nat} {left right text : String}

theorem append (first : Framed escapes enter middle left)
    (second : Framed escapes middle leave right) : Framed escapes enter leave (left ++ right) := by
  rw [Framed, String.toList_append]
  exact Frames.append first second

theorem of_calm (calm : Calm enter leave text) : Framed escapes enter leave text := by
  obtain ⟨fits, leads⟩ := calm
  rw [Framed]
  generalize text.toList = characters at fits leads
  induction characters generalizing enter with
  | nil =>
    cases leads
    exact .done
  | cons first rest ih =>
    rw [List.all_cons, Bool.and_eq_true] at fits
    by_cases ordinary : isOrdinary first
    · rw [depthAfter?_ordinary ordinary] at leads
      exact .ordinary ordinary (ih fits.2 leads)
    · have parenthesis : first = '(' ∨ first = ')' := by
        have listed := fits.1
        rw [Bool.or_eq_true] at listed
        simpa using listed.resolve_left ordinary
      rcases parenthesis with rfl | rfl
      · exact .opening (ih fits.2 leads)
      · cases enter with
        | zero => cases leads
        | succ outer => exact .closing (ih fits.2 leads)

/-- A qualified identifier stands in every frame. -/
theorem name (valid : Text.isQualifiedIdentifier text) : Framed escapes depth depth text := by
  apply Frames.of_ordinary
  intro character member
  have named := List.all_eq_true.mp (Text.all_isNameCharacter valid) character member
  rw [isOrdinary, named, Bool.true_or]

theorem digits (numeral : text.toList.all Char.isDigit) : Framed escapes depth depth text :=
  Frames.of_ordinary fun character member =>
    isOrdinary_of_isDigit (List.all_eq_true.mp numeral character member)

/-- An identifier of a tag may have a sign, and then a digit comes next. -/
theorem id (id : TagId) : Framed escapes depth depth id.text := by
  unfold TagId.text Number.writeInt64 Number.writeInt
  split
  · exact digits (Number.all_isDigit_writeNat _)
  · next before _ =>
    have numeral : ∀ character ∈ Nat.toDigits 10 (before + 1), character.isDigit := fun _ member =>
      Nat.isDigit_of_mem_toDigits (by decide) (by decide) member
    rw [Framed, String.toList_ofList]
    cases written : Nat.toDigits 10 (before + 1) with
    | nil => simp at written
    | cons first rest =>
      rw [written] at numeral
      obtain ⟨digit, others⟩ := List.forall_mem_cons.mp numeral
      exact .sign digit (.of_ordinary fun character member =>
        isOrdinary_of_isDigit (others character member))

theorem enclosed (framed : Framed escapes 0 0 text) :
    Framed escapes depth depth ("(" ++ text ++ ")") := by
  have inside : Framed escapes (depth + 1) (depth + 1) text := by
    have deeper := Frames.deepen (depth + 1) framed
    rwa [Nat.zero_add] at deeper
  have opened : Framed escapes depth (depth + 1) "(" := .opening .done
  have closed : Framed escapes (depth + 1) depth ")" := .closing .done
  exact (opened.append inside).append closed

theorem intercalate {separator : String} {pieces : List String}
    (between : Framed escapes 0 0 separator) (each : ∀ piece ∈ pieces, Framed escapes 0 0 piece) :
    Framed escapes 0 0 (separator.intercalate pieces) := by
  induction pieces with
  | nil => exact .done
  | cons first rest ih =>
    obtain ⟨head, others⟩ := List.forall_mem_cons.mp each
    cases rest with
    | nil => simpa using head
    | cons second rest =>
      rw [String.intercalate_cons_cons]
      exact (head.append between).append (ih others)

end Framed

/-- Printable ASCII that ends no statement, quotes no name and begins no comment. -/
structure Contained (text : List Char) : Prop where
  printable : ∀ character ∈ text, 32 ≤ character.toNat ∧ character.toNat ≤ 126
  unbroken : ∀ character ∈ text, character ∉ [';', '"', '`']
  uncommented : ∀ opener ∈ ["--", "/*"], ¬ opener.toList <:+: text

/-- Text with escape clauses between parts that quote nothing, and with balanced parentheses
outside of these clauses. -/
structure EscapedBetween (parts : List (List Char)) (text : List Char) : Prop where
  whole : text = escapeClause.toList.intercalate parts
  unquoted : ∀ part ∈ parts, '\'' ∉ part
  balanced : Balanced parts.flatten

/-- A character that text in a frame may have. -/
private def isFrameCharacter (character : Char) : Bool :=
  isOrdinary character || "()-'\\".toList.contains character

private theorem printable_of_isOrdinary {character : Char} (ordinary : isOrdinary character) :
    32 ≤ character.toNat ∧ character.toNat ≤ 126 := by
  have within {low high : Char} (least : 32 ≤ low.toNat) (most : high.toNat ≤ 126)
      (above : low.val ≤ character.val) (below : character.val ≤ high.val) :
      32 ≤ character.toNat ∧ character.toNat ≤ 126 :=
    ⟨Nat.le_trans least (UInt32.le_iff_toNat_le.mp above),
      Nat.le_trans (UInt32.le_iff_toNat_le.mp below) most⟩
  rw [isOrdinary, Bool.or_eq_true] at ordinary
  rcases ordinary with name | mark
  · rcases Bool.or_eq_true_iff.mp name with identifier | dot
    · rcases Bool.or_eq_true_iff.mp identifier with letterOrDigit | underscore
      · rcases Bool.or_eq_true_iff.mp letterOrDigit with letter | digit
        · rcases Bool.or_eq_true_iff.mp letter with upper | lower
          · obtain ⟨above, below⟩ := of_decide_eq_true upper
            exact @within 'A' 'Z' (by decide) (by decide) above below
          · obtain ⟨above, below⟩ := Bool.and_eq_true_iff.mp lower
            exact @within 'a' 'z' (by decide) (by decide) (of_decide_eq_true above)
              (of_decide_eq_true below)
        · obtain ⟨above, below⟩ := Bool.and_eq_true_iff.mp digit
          exact @within '0' '9' (by decide) (by decide) (of_decide_eq_true above)
            (of_decide_eq_true below)
      · rw [beq_iff_eq.mp underscore]
        decide
    · rw [beq_iff_eq.mp dot]
      decide
  · simp at mark
    rcases mark with rfl | rfl | rfl | rfl | rfl | rfl | rfl <;> decide

namespace Frames

variable {escapes : Bool} {enter leave : Nat} {text : List Char}

private theorem isFrameCharacter_of_mem (framed : Frames escapes enter leave text) :
    ∀ character ∈ text, isFrameCharacter character := by
  induction framed with
  | done => simp
  | ordinary fits _ ih =>
    exact List.forall_mem_cons.mpr ⟨by rw [isFrameCharacter, fits, Bool.true_or], ih⟩
  | opening _ ih => exact List.forall_mem_cons.mpr ⟨by decide, ih⟩
  | closing _ ih => exact List.forall_mem_cons.mpr ⟨by decide, ih⟩
  | sign digit _ ih =>
    have ordinary := isOrdinary_of_isDigit digit
    refine List.forall_mem_cons.mpr ⟨by decide, List.forall_mem_cons.mpr ⟨?_, ih⟩⟩
    rw [isFrameCharacter, ordinary, Bool.true_or]
  | escape _ _ ih =>
    have clause : escapeClause.toList.all isFrameCharacter := by decide
    exact List.forall_mem_append.mpr ⟨List.all_eq_true.mp clause, ih⟩

/-- Every minus sign stands before a digit, so no two of them meet. -/
private theorem not_dashes (framed : Frames escapes enter leave text) :
    ¬ ['-', '-'] <:+: text := by
  induction framed with
  | done => simp
  | @ordinary _ _ character _ fits _ ih =>
    have other : '-' ≠ character := ne_of_isOrdinary fits (by decide)
    simp [List.infix_cons_iff, other, ih]
  | opening _ ih => simp [List.infix_cons_iff, ih]
  | closing _ ih => simp [List.infix_cons_iff, ih]
  | @sign _ _ character _ digit _ ih =>
    have other : '-' ≠ character := ne_of_isOrdinary (isOrdinary_of_isDigit digit) (by decide)
    simp [List.infix_cons_iff, other, ih]
  | escape _ _ ih => simp [escapeClause_toList, List.infix_cons_iff, ih]

theorem toContained (framed : Frames escapes enter leave text) : Contained text where
  printable character member := by
    have fits := isFrameCharacter_of_mem framed character member
    rw [isFrameCharacter, Bool.or_eq_true] at fits
    rcases fits with ordinary | other
    · exact printable_of_isOrdinary ordinary
    · simp at other
      rcases other with rfl | rfl | rfl | rfl | rfl <;> decide
  unbroken character member listed := by
    have fits := isFrameCharacter_of_mem framed character member
    simp only [List.mem_cons, List.not_mem_nil, or_false] at listed
    rcases listed with rfl | rfl | rfl <;> exact absurd fits (by decide)
  uncommented := by
    have slash : '/' ∉ text := fun member =>
      absurd (isFrameCharacter_of_mem framed _ member) (by decide)
    simp only [List.forall_mem_cons]
    refine ⟨not_dashes framed, fun opened => slash (opened.subset ?_), List.forall_mem_nil _⟩
    decide

/-- Add to the first of the parts. -/
private theorem intercalate_cons_head (separator : List Char) (character : Char) (part : List Char)
    (parts : List (List Char)) : separator.intercalate ((character :: part) :: parts) =
      character :: separator.intercalate (part :: parts) := by
  cases parts <;> simp [List.intercalate]

private theorem parts_of_frames (framed : Frames escapes enter leave text) :
    ∃ part parts, text = escapeClause.toList.intercalate (part :: parts) ∧
      (∀ piece ∈ part :: parts, '\'' ∉ piece) ∧
      depthAfter? enter (part :: parts).flatten = some leave ∧ (escapes = false → parts = []) := by
  induction framed with
  | @done depth => exact ⟨[], [], by simp [List.intercalate], by simp, rfl, fun _ => rfl⟩
  | @ordinary _ _ character _ fits _ ih =>
    obtain ⟨part, parts, same, unquoted, leads, alone⟩ := ih
    have visible : '\'' ≠ character := ne_of_isOrdinary fits (by decide)
    refine ⟨character :: part, parts, by rw [intercalate_cons_head, same], ?_, ?_, alone⟩
    · simpa [visible] using unquoted
    · rwa [List.flatten_cons, List.cons_append, depthAfter?_ordinary fits]
  | opening _ ih =>
    obtain ⟨part, parts, same, unquoted, leads, alone⟩ := ih
    exact ⟨'(' :: part, parts, by rw [intercalate_cons_head, same], by simpa using unquoted, leads,
      alone⟩
  | closing _ ih =>
    obtain ⟨part, parts, same, unquoted, leads, alone⟩ := ih
    exact ⟨')' :: part, parts, by rw [intercalate_cons_head, same], by simpa using unquoted, leads,
      alone⟩
  | @sign _ _ character _ digit _ ih =>
    obtain ⟨part, parts, same, unquoted, leads, alone⟩ := ih
    have fits := isOrdinary_of_isDigit digit
    have visible : '\'' ≠ character := ne_of_isOrdinary fits (by decide)
    refine ⟨'-' :: character :: part, parts, ?_, ?_, ?_, alone⟩
    · rw [intercalate_cons_head, intercalate_cons_head, same]
    · simpa [visible] using unquoted
    · rw [List.flatten_cons, List.cons_append, List.cons_append]
      exact (depthAfter?_ordinary fits _ _).trans leads
  | escape allowed _ ih =>
    obtain ⟨part, parts, same, unquoted, leads, _⟩ := ih
    refine ⟨[], part :: parts, ?_, ?_, leads, ?_⟩
    · rw [same]
      simp [List.intercalate]
    · simpa using unquoted
    · rintro rfl
      cases allowed

/-- Text in a frame quotes nothing but the escape character, and that only where it may. -/
theorem escapedBetween (framed : Frames escapes 0 0 text) :
    ∃ parts, EscapedBetween parts text ∧ (escapes = false → parts.length = 1) := by
  obtain ⟨part, parts, whole, unquoted, balanced, alone⟩ := parts_of_frames framed
  refine ⟨part :: parts, ⟨whole, unquoted, balanced⟩, fun plain => ?_⟩
  rw [alone plain, List.length_singleton]

private theorem of_placeholder (dialect : Dialect) (position depth : Nat) :
    Frames escapes depth depth (dialect.placeholder position).toList := by
  apply of_ordinary
  intro character member
  rw [Dialect.placeholder, String.toList_append, List.mem_append] at member
  rcases member with mark | digit
  · cases dialect <;> simp [Dialect.placeholderMark] at mark <;> subst mark <;> decide
  · exact isOrdinary_of_isDigit (List.all_eq_true.mp (Number.all_isDigit_writeNat position) _ digit)

private theorem scan_escapeClause (rest : List Char) :
    Lexeme.scan false (escapeClause.toList ++ rest) =
      escapeClause.toList.map .plain ++ Lexeme.scan false rest := by
  rw [Lexeme.scan_append (.inl (by decide)), Lexeme.scan_of_no_dollar (by decide)]
  rfl

private theorem dropWhile_of_not {character : Char} {rest : List Char}
    (other : ¬ Text.isIdentifierRest character) :
    (character :: rest).dropWhile Text.isIdentifierRest = character :: rest :=
  List.dropWhile_cons_of_neg other

/-- Slots are replaced by ordinary characters. A slot takes a run of names with it, so what
comes after such a run is followed along with the whole. -/
private theorem bound_and_past (dialect : Dialect) (order : List String)
    (framed : Frames escapes enter leave text) :
    Frames escapes enter leave ((Lexeme.scan false text).flatMap (Lexeme.bound dialect order)) ∧
      Frames escapes enter leave ((Lexeme.scan false
        (text.dropWhile Text.isIdentifierRest)).flatMap (Lexeme.bound dialect order)) := by
  induction framed with
  | done =>
    rw [List.dropWhile_nil, Lexeme.scan]
    exact ⟨.done, .done⟩
  | @ordinary enter leave character rest fits _ ih =>
    have whole : Frames escapes enter leave
        ((Lexeme.scan false (character :: rest)).flatMap (Lexeme.bound dialect order)) := by
      have visible : '\'' ≠ character := ne_of_isOrdinary fits (by decide)
      by_cases slot : character = '$' ∧ rest.head?.any Text.isIdentifierStart
      · obtain ⟨rfl, named⟩ := slot
        cases rest with
        | nil => cases named
        | cons first more =>
          have start : Text.isIdentifierStart first := by simpa using named
          have past := ih.2
          rw [List.dropWhile_cons_of_pos (Text.isIdentifierRest_of_isIdentifierStart start)] at past
          rw [Lexeme.scan_slot start, List.flatMap_cons]
          exact (of_placeholder dialect _ enter).append past
      · have plain : Lexeme.scan false (character :: rest) =
            .plain character :: Lexeme.scan false rest := by
          by_cases dollar : character = '$'
          · subst dollar
            exact Lexeme.scan_dollar (by simpa using slot) false
          · exact Lexeme.scan_plain visible.symm dollar false rest
        rw [plain, List.flatMap_cons]
        exact .ordinary fits ih.1
    refine ⟨whole, ?_⟩
    by_cases name : Text.isIdentifierRest character
    · rw [List.dropWhile_cons_of_pos name]
      exact ih.2
    · rwa [dropWhile_of_not name]
  | opening _ ih =>
    rw [dropWhile_of_not (by decide), Lexeme.scan_plain (by decide) (by decide), List.flatMap_cons]
    exact ⟨.opening ih.1, .opening ih.1⟩
  | closing _ ih =>
    rw [dropWhile_of_not (by decide), Lexeme.scan_plain (by decide) (by decide), List.flatMap_cons]
    exact ⟨.closing ih.1, .closing ih.1⟩
  | @sign _ _ character _ digit _ ih =>
    have visible : character ≠ '\'' ∧ character ≠ '$' := by
      constructor <;> rintro rfl <;> exact absurd digit (by decide)
    rw [dropWhile_of_not (by decide), Lexeme.scan_plain (by decide) (by decide),
      Lexeme.scan_plain visible.1 visible.2, List.flatMap_cons, List.flatMap_cons]
    exact ⟨.sign digit ih.1, .sign digit ih.1⟩
  | @escape enter leave rest allowed _ ih =>
    have start : (escapeClause.toList ++ rest).dropWhile Text.isIdentifierRest =
        escapeClause.toList ++ rest := dropWhile_of_not (by decide)
    rw [start, scan_escapeClause, List.flatMap_append]
    exact ⟨.escape allowed ih.1, .escape allowed ih.1⟩

/-- Binding leaves text in its frame. -/
theorem bound (dialect : Dialect) (order : List String)
    (framed : Frames escapes enter leave text) :
    Frames escapes enter leave ((Lexeme.scan false text).flatMap (Lexeme.bound dialect order)) :=
  (bound_and_past dialect order framed).1

end Frames

/-- What binding makes of a text in its frame stays in it. -/
theorem Statement.framed_bind {escapes : Bool} {enter leave : Nat} {dialect : Dialect}
    {params : Params} {statement : Statement} {bound : PositionalStatement}
    (framed : Framed escapes enter leave (statement.text dialect))
    (binds : statement.bind dialect params = .ok bound) : Framed escapes enter leave bound.sql := by
  rw [Statement.bind, Outcome.mapError_ok_iff, bindText] at binds
  obtain ⟨values, _, made⟩ := Outcome.of_bind_ok binds
  cases made
  rw [Framed, String.toList_ofList]
  exact Frames.bound dialect _ framed

end TagQuery
