import TagQuery.Proofs.Action.Outcome
import TagQuery.Proofs.Number.Decimal
import TagQuery.Proofs.Statement.Positions
import TagQuery.Proofs.Statement.Scan

/-! Text that was bound: it has the literals of the text that it was bound from, and no slots
any more, so that binding it once more changes nothing. -/

namespace TagQuery

/-- Put a character in front of the first of some texts. -/
def extendFirst (character : Char) : List (List Char) → List (List Char)
  | [] => [[character]]
  | first :: rest => (character :: first) :: rest

/-- The literals of text from left to right, each with its quotes. A quote ends a literal unless
another one follows, and a literal that nothing ends goes on to the end of the text. When the
text begins inside of a literal, the first is what is left of that one. -/
def literals (quoted : Bool) : List Char → List (List Char)
  | [] => if quoted then [[]] else []
  | character :: rest =>
    if character = '\'' then
      if quoted ∧ rest.head? ≠ some '\'' then [character] :: literals (!quoted) rest
      else extendFirst character (literals (!quoted) rest)
    else if quoted then extendFirst character (literals quoted rest)
    else literals quoted rest

theorem literals_cons {character : Char} (visible : character ≠ '\'') (quoted : Bool)
    (rest : List Char) : literals quoted (character :: rest) =
      if quoted then extendFirst character (literals quoted rest) else literals quoted rest := by
  rw [literals, if_neg visible]

/-- Text without quotes before other text adds no literal. -/
theorem literals_append_of_no_quote {front : List Char} (free : '\'' ∉ front) (rest : List Char) :
    literals false (front ++ rest) = literals false rest := by
  induction front with
  | nil => rfl
  | cons first more ih =>
    rw [List.mem_cons, not_or] at free
    rw [List.cons_append, literals_cons (Ne.symm free.1), if_neg (by decide), ih free.2]

namespace Lexeme

/-- The text that a scanned text is bound to. -/
abbrev substituted (dialect : Dialect) (order : List String) (quoted : Bool) (text : List Char) :
    List Char :=
  (scan quoted text).flatMap (bound dialect order)

variable (dialect : Dialect) (order : List String) (quoted : Bool) (text : List Char)

theorem scan_dollar_quoted (rest : List Char) :
    scan true ('$' :: rest) = .plain '$' :: scan true rest := by
  cases rest with
  | nil => simp [scan]
  | cons first rest => rw [scan, if_neg (by simp)]

theorem no_quote_placeholder (position : Nat) : '\'' ∉ (dialect.placeholder position).toList := by
  rw [placeholder_toList, List.mem_cons, not_or]
  constructor
  · cases dialect <;> decide
  · intro member
    have digit := Nat.isDigit_of_mem_toDigits (by decide) (by decide) member
    exact absurd digit (by decide)

/-- A placeholder is no slot: a digit comes after its mark. -/
theorem scan_placeholder (position : Nat) :
    scan false (dialect.placeholder position).toList =
      (dialect.placeholder position).toList.map .plain := by
  have digits : ∀ character ∈ Nat.toDigits 10 position, character.isDigit := fun _ member =>
    Nat.isDigit_of_mem_toDigits (by decide) (by decide) member
  have numeral : scan false (Nat.toDigits 10 position) = (Nat.toDigits 10 position).map .plain :=
    scan_of_no_dollar (fun member => absurd (digits _ member) (by decide)) false
  rw [placeholder_toList, List.map_cons, ← numeral]
  cases dialect with
  | postgres =>
    apply scan_dollar
    cases written : Nat.toDigits 10 position with
    | nil => rfl
    | cons first rest =>
      rw [written] at digits
      exact Number.isIdentifierStart_of_isDigit (digits first List.mem_cons_self)
  | sqlite => exact scan_plain (by decide) (by decide) false _

/-- Bound text has no slots. -/
theorem scan_substituted : scan quoted (substituted dialect order quoted text) =
    (substituted dialect order quoted text).map .plain := by
  unfold substituted
  fun_induction scan quoted text with
  | case1 quoted => simp [scan]
  | case2 quoted rest ih =>
    rw [List.flatMap_cons, bound, List.singleton_append, scan, ih]
    rfl
  | case3 quoted first rest slot ih =>
    obtain rfl : quoted = false := by simp_all
    have ends := head?_bound dialect order false (rest.dropWhile Text.isIdentifierRest)
      Text.isIdentifierRest (by cases dialect <;> rfl) rfl
    rw [head?_dropWhile_isIdentifierRest] at ends
    rw [List.flatMap_cons, bound, List.map_append, ← ih, ← scan_placeholder,
      scan_append (.inr ends),
      quotedAfter_of_no_quote (no_quote_placeholder dialect _)]
  | case4 quoted first rest unnamed ih =>
    rw [List.flatMap_cons, bound, List.singleton_append, List.map_cons, ← ih]
    cases quoted with
    | true => exact scan_dollar_quoted _
    | false =>
      have other : Text.isIdentifierStart first = false := by simpa using unnamed
      apply scan_dollar
      rw [head?_bound dialect order false _ Text.isIdentifierStart (by cases dialect <;> rfl) rfl]
      exact other
  | case5 quoted character rest visible other ih =>
    rw [List.flatMap_cons, bound, List.singleton_append, List.map_cons, ← ih]
    by_cases dollar : character = '$'
    · subst dollar
      -- A dollar sign with something after it is in another case of the scan.
      have last : rest = [] := by
        cases rest with
        | nil => rfl
        | cons second rest => exact absurd rfl (other second rest rfl)
      subst last
      simp [scan]
    · exact scan_plain visible dollar quoted _

/-- Binding keeps every literal and makes no new one. -/
theorem literals_substituted :
    literals quoted (substituted dialect order quoted text) = literals quoted text := by
  unfold substituted
  fun_induction scan quoted text with
  | case1 quoted => rfl
  | case2 quoted rest ih =>
    -- Whether a quote comes next decides if this one ends a literal.
    have follows : (substituted dialect order (!quoted) rest).head? = some '\'' ↔
        rest.head? = some '\'' := by
      have begins := head?_bound dialect order (!quoted) rest (· == '\'')
        (by cases dialect <;> rfl) rfl
      simpa [Option.any_eq_true] using Bool.eq_iff_iff.mp begins
    rw [List.flatMap_cons, bound, List.singleton_append, literals, literals, if_pos rfl,
      if_pos rfl, ih]
    simp only [ne_eq, follows]
  | case3 quoted first rest slot ih =>
    obtain ⟨outside, start⟩ : quoted = false ∧ Text.isIdentifierStart first := by
      simpa using slot
    subst outside
    have visible := ne_quote_of_isIdentifierRest (Text.isIdentifierRest_of_isIdentifierStart start)
    have free : '\'' ∉ '$' :: first :: rest.takeWhile Text.isIdentifierRest := by
      simp [Ne.symm visible, takeWhile_no_quote rest]
    have parts : '$' :: first :: rest = '$' :: first :: rest.takeWhile Text.isIdentifierRest ++
        rest.dropWhile Text.isIdentifierRest := by
      simp
    rw [List.flatMap_cons, bound, literals_append_of_no_quote (no_quote_placeholder dialect _), ih,
      parts, literals_append_of_no_quote free]
  | case4 quoted first rest unnamed ih =>
    have sign : '$' ≠ '\'' := by decide
    rw [List.flatMap_cons, bound, List.singleton_append, literals_cons sign, literals_cons sign, ih]
  | case5 quoted character rest visible other ih =>
    rw [List.flatMap_cons, bound, List.singleton_append, literals_cons visible,
      literals_cons visible, ih]

end Lexeme

/-- Text without slots binds to itself, and needs no parameters. -/
theorem bindText_of_plain {sql : String}
    (plain : Lexeme.scan false sql.toList = sql.toList.map .plain) (dialect : Dialect)
    (params : Params) : bindText dialect params sql = .ok ⟨sql, []⟩ := by
  have slotless : Lexeme.names (sql.toList.map .plain) = [] := by
    have nameless : (sql.toList.map Lexeme.plain).filterMap Lexeme.name? = [] := by
      rw [List.filterMap_map, List.filterMap_eq_nil_iff]
      exact fun _ _ => rfl
    rw [Lexeme.names, nameless]
    rfl
  have kept (order : List String) :
      (sql.toList.map .plain).flatMap (Lexeme.bound dialect order) = sql.toList := by
    rw [List.flatMap_map]
    exact List.flatMap_singleton' sql.toList
  rw [bindText, plain, slotless]
  change Except.ok (PositionalStatement.mk (String.ofList _) []) = _
  rw [kept, String.ofList_toList]

/-- Bound text binds to itself, whatever the dialect and the parameters, and it has the quoted
literals of the text that it was bound from. -/
theorem bindText_again {dialect : Dialect} {params : Params} {sql : String}
    {statement : PositionalStatement} (binds : bindText dialect params sql = .ok statement) :
    (∀ other others, bindText other others statement.sql = .ok ⟨statement.sql, []⟩) ∧
      literals false statement.sql.toList = literals false sql.toList := by
  obtain ⟨values, _, made⟩ := Outcome.of_bind_ok binds
  cases made
  constructor
  · intro other others
    apply bindText_of_plain
    rw [String.toList_ofList]
    exact Lexeme.scan_substituted dialect _ false sql.toList
  · rw [String.toList_ofList]
    exact Lexeme.literals_substituted dialect _ false sql.toList

/-- Two parameters, where the name of one begins with that of the other. -/
def nestedParams : Params := ⟨[("a", .integer 1), ("ab", .text "two")]⟩

theorem bindText_again_adjacent :
    bindText .postgres nestedParams "$$a'$b''$c'$ab$a-'$d" =
      .ok ⟨"$$1'$b''$c'$2$1-'$d", [.integer 1, .text "two"]⟩ ∧
    bindText .sqlite .empty "$$1'$b''$c'$2$1-'$d" = .ok ⟨"$$1'$b''$c'$2$1-'$d", []⟩ ∧
    literals false "$$1'$b''$c'$2$1-'$d".toList = ["'$b''$c'".toList, "'$d".toList] := by
  have binds : bindText .postgres nestedParams "$$a'$b''$c'$ab$a-'$d" =
      .ok ⟨"$$1'$b''$c'$2$1-'$d", [.integer 1, .text "two"]⟩ := by
    decide +kernel
  obtain ⟨again, same⟩ := bindText_again binds
  refine ⟨binds, again .sqlite .empty, same.trans ?_⟩
  rfl

end TagQuery
