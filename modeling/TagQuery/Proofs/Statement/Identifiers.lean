import TagQuery.Proofs.Statement.Positions
import TagQuery.Statement.Text

/-! Identifiers of tags read back from the text of statements, before and after it is bound. -/

namespace TagQuery

namespace TagId

/-- The identifier that a text has after a start. -/
def readAfter? : List Char → List Char → Option TagId
  | [], text => (Number.readInt64? (String.ofList (text.takeWhile Number.isNumeral))).map mk
  | _ :: _, [] => none
  | expected :: start, character :: text =>
    if character = expected then readAfter? start text else none

/-- The identifiers that a text has after a start within parentheses, from left to right. -/
def readEach (start : List Char) : List Char → List TagId
  | [] => []
  | character :: text =>
    (if character = '(' then (readAfter? start text).toList else []) ++ readEach start text

theorem isNumeral_of_mem_text {id : TagId} {character : Char} (member : character ∈ id.text.toList) :
    Number.isNumeral character :=
  List.all_eq_true.mp (Number.all_isNumeral_writeInt64 id.value) character member

/-- The identifier that was written is read back. -/
theorem readAfter?_append (start : List Char) (id : TagId) {rest : List Char}
    (ends : rest.head?.any Number.isNumeral = false) :
    readAfter? start (start ++ (id.text.toList ++ rest)) = some id := by
  induction start with
  | nil =>
    have taken : (id.text.toList ++ rest).takeWhile Number.isNumeral = id.text.toList :=
      takeWhile_append_of_stop (fun _ member => isNumeral_of_mem_text member) ends
    rw [List.nil_append, readAfter?, taken, String.ofList_toList, text,
      Number.readInt64?_writeInt64]
    rfl
  | cons first start ih => rw [List.cons_append, readAfter?, if_pos rfl, ih]

section Bound

variable {dialect : Dialect} {order : List String}

private theorem not_isNumeral_mark (dialect : Dialect) : Number.isNumeral dialect.mark = false := by
  cases dialect <;> rfl

private theorem takeWhile_bound (quoted : Bool) (text : List Char) :
    ((Lexeme.scan quoted text).flatMap (Lexeme.bound dialect order)).takeWhile Number.isNumeral =
      text.takeWhile Number.isNumeral := by
  fun_induction Lexeme.scan quoted text with
  | case1 => rfl
  | case2 => rfl
  | case3 quoted first rest slot ih =>
    rw [List.flatMap_cons, Lexeme.bound, placeholder_toList, List.cons_append,
      List.takeWhile_cons_of_neg (by simp [not_isNumeral_mark])]
    rfl
  | case4 => rfl
  | case5 quoted character rest visible other ih =>
    rw [List.flatMap_cons, Lexeme.bound, List.singleton_append, List.takeWhile_cons,
      List.takeWhile_cons, ih]

/-- A start has no part in slots and their placeholders. -/
private theorem readAfter?_bound {start : List Char} (free : '$' ∉ start) (unmarked : '?' ∉ start)
    (quoted : Bool) (text : List Char) :
    readAfter? start ((Lexeme.scan quoted text).flatMap (Lexeme.bound dialect order)) =
      readAfter? start text := by
  induction start generalizing quoted text with
  | nil => rw [readAfter?, readAfter?, takeWhile_bound]
  | cons expected start ih =>
    simp only [List.mem_cons, not_or] at free unmarked
    have later := ih free.2 unmarked.2
    have mark : dialect.mark ≠ expected := by
      cases dialect
      · exact free.1
      · exact unmarked.1
    fun_cases Lexeme.scan quoted text with
    | case1 => rfl
    | case2 rest =>
      rw [List.flatMap_cons, Lexeme.bound, List.singleton_append, readAfter?, readAfter?, later]
    | case3 first rest slot =>
      rw [List.flatMap_cons, Lexeme.bound, placeholder_toList, List.cons_append, readAfter?,
        readAfter?, if_neg mark, if_neg free.1]
    | case4 first rest plain =>
      rw [List.flatMap_cons, Lexeme.bound, List.singleton_append, readAfter?, readAfter?, later]
    | case5 character rest visible other =>
      rw [List.flatMap_cons, Lexeme.bound, List.singleton_append, readAfter?, readAfter?, later]

theorem readEach_of_free {start before : List Char} (free : '(' ∉ before) (rest : List Char) :
    readEach start (before ++ rest) = readEach start rest := by
  induction before with
  | nil => rfl
  | cons first before ih =>
    simp only [List.mem_cons, not_or] at free
    rw [List.cons_append, readEach, if_neg (Ne.symm free.1), ih free.2, List.nil_append]

/-- Binding text leaves the identifiers in it. -/
theorem readEach_bound {start : List Char} (free : '$' ∉ start) (unmarked : '?' ∉ start)
    (quoted : Bool) (text : List Char) :
    readEach start ((Lexeme.scan quoted text).flatMap (Lexeme.bound dialect order)) =
      readEach start text := by
  have reads (quoted : Bool) (text : List Char) : readAfter? start
      ((Lexeme.scan quoted text).flatMap (Lexeme.bound dialect order)) = readAfter? start text :=
    readAfter?_bound free unmarked quoted text
  fun_induction Lexeme.scan quoted text with
  | case1 => rfl
  | case2 quoted rest ih =>
    rw [List.flatMap_cons, Lexeme.bound, List.singleton_append, readEach, readEach, reads, ih]
  | case3 quoted first rest slot ih =>
    have placed : '(' ∉ (dialect.placeholder (order.idxOf (String.ofList
        (first :: rest.takeWhile Text.isIdentifierRest)) + 1)).toList := by
      rw [placeholder_toList, List.mem_cons, not_or]
      refine ⟨by cases dialect <;> decide, fun member => ?_⟩
      exact absurd (Nat.isDigit_of_mem_toDigits (by decide) (by decide) member) (by decide)
    have start : Text.isIdentifierStart first := by simp_all
    have named : '(' ∉ '$' :: first :: rest.takeWhile Text.isIdentifierRest := by
      rw [List.mem_cons, List.mem_cons, not_or, not_or]
      refine ⟨by decide, ?_, fun member => ?_⟩
      · rintro rfl
        exact absurd start (by decide)
      · exact absurd (List.mem_takeWhile_imp member) (by decide)
    have whole : '$' :: first :: rest = ('$' :: first :: rest.takeWhile Text.isIdentifierRest) ++
        rest.dropWhile Text.isIdentifierRest := by
      rw [List.cons_append, List.cons_append, List.takeWhile_append_dropWhile]
    rw [List.flatMap_cons, Lexeme.bound, readEach_of_free placed, ih, whole,
      readEach_of_free named]
  | case4 quoted first rest plain ih =>
    rw [List.flatMap_cons, Lexeme.bound, List.singleton_append, readEach, readEach, reads, ih]
  | case5 quoted character rest visible other ih =>
    rw [List.flatMap_cons, Lexeme.bound, List.singleton_append, readEach, readEach, reads, ih]

end Bound

end TagId

/-- A text that has some identifiers after a start within parentheses, whatever comes after it. -/
def Inlines (start text : String) (ids : List TagId) : Prop :=
  ∀ rest, TagId.readEach start.toList (text.toList ++ rest) =
    ids ++ TagId.readEach start.toList rest

namespace Inlines

variable {start text left right : String} {ids more : List TagId}

theorem of_free (free : '(' ∉ text.toList) : Inlines start text [] :=
  TagId.readEach_of_free free

theorem append (one : Inlines start left ids) (other : Inlines start right more) :
    Inlines start (left ++ right) (ids ++ more) := by
  intro rest
  rw [String.toList_append, List.append_assoc, one, other, List.append_assoc]

theorem intercalate {separator : String} (free : '(' ∉ separator.toList) {pieces : List String}
    {ids : List (List TagId)} (each : List.Forall₂ (Inlines start) pieces ids) :
    Inlines start (separator.intercalate pieces) ids.flatten := by
  induction each with
  | nil => exact of_free (by simp)
  | @cons first more rest others head tail ih =>
    cases tail with
    | nil => simpa using head
    | @cons second _ rest _ _ _ =>
      rw [String.intercalate_cons_cons, List.flatten_cons, ← List.append_nil more]
      exact (head.append (of_free free)).append ih

theorem commaList {pieces : List String} (each : ∀ piece ∈ pieces, Inlines start piece []) :
    Inlines start (commaList pieces) [] := by
  have none : (pieces.map fun _ => ([] : List TagId)).flatten = [] := by simp
  rw [← none]
  refine intercalate (by decide) (List.forall₂_map_right_iff.mpr ?_)
  exact List.forall₂_same.mpr each

/-- Other text may stand in parentheses. -/
theorem opened {head first : Char} (inlines : Inlines start text ids)
    (begins : text.toList.head? = some head) (starts : start.toList.head? = some first)
    (other : head ≠ first) : Inlines start ("(" ++ text) ids := by
  intro rest
  have unread : TagId.readAfter? start.toList (text.toList ++ rest) = none := by
    obtain ⟨tail, shown⟩ := List.head?_eq_some_iff.mp begins
    obtain ⟨later, shown'⟩ := List.head?_eq_some_iff.mp starts
    rw [shown, shown', List.cons_append, TagId.readAfter?, if_neg other]
  have shown : ("(" ++ text).toList = '(' :: text.toList := by
    rw [String.toList_append]
    rfl
  rw [shown, List.cons_append, TagId.readEach, if_pos rfl, unread, inlines]
  rfl

/-- A start in parentheses has the identifier that comes after it. -/
theorem test (free : '(' ∉ start.toList) (id : TagId) {after : String} (closed : '(' ∉ after.toList)
    (ends : after.toList.head?.any fun character => !Number.isNumeral character) :
    Inlines start ("(" ++ start ++ id.text ++ after) [id] := by
  intro rest
  have shown : ("(" ++ start ++ id.text ++ after).toList ++ rest =
      '(' :: (start.toList ++ (id.text.toList ++ (after.toList ++ rest))) := by
    simp
  have stop : (after.toList ++ rest).head?.any Number.isNumeral = false := by
    cases characters : after.toList with
    | nil => simp [characters] at ends
    | cons head tail => simpa [characters] using ends
  have numeral : '(' ∉ id.text.toList := fun member =>
    absurd (TagId.isNumeral_of_mem_text member) (by decide)
  rw [shown, TagId.readEach, if_pos rfl, TagId.readAfter?_append start.toList id stop,
    TagId.readEach_of_free free, TagId.readEach_of_free numeral, TagId.readEach_of_free closed]
  rfl

end Inlines

end TagQuery
