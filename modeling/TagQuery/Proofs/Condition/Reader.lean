import TagQuery.Proofs.Condition.Basic
import TagQuery.Proofs.List.Runs
import TagQuery.Proofs.Text.Names
import TagQuery.Number.Decimal

/-! Reading conditions: text into words and signs, and these into a condition. `NOT` binds
more closely than `AND`, which binds more closely than `OR`, and parentheses bind most. -/

namespace TagQuery

/-- A run of name characters, or any other character but a space. -/
inductive Token where
  | word (characters : List Char)
  | sign (character : Char)
deriving DecidableEq, Repr

namespace Token

/-- Put a name character before the word that it touches. -/
def extend (character : Char) : List Token → List Token
  | .word later :: others => .word (character :: later) :: others
  | others => .word [character] :: others

def ofText : List Char → List Token
  | [] => []
  | character :: rest =>
    if character = ' ' then ofText rest
    else if Text.isNameCharacter character then
      if rest.head?.any Text.isNameCharacter then extend character (ofText rest)
      else .word [character] :: ofText rest
    else .sign character :: ofText rest

/-- The tokens of a fixed piece of text. -/
def phrase (text : String) : List Token := ofText text.toList

/-- What follows the expected tokens, when the input begins with them. -/
def skip : List Token → List Token → Option (List Token)
  | [], input => some input
  | _ :: _, [] => none
  | expected :: more, found :: rest => if expected = found then skip more rest else none

theorem ofText_name {first : Char} (name : Text.isNameCharacter first) (rest : List Char) :
    ofText (first :: rest) =
      if rest.head?.any Text.isNameCharacter then extend first (ofText rest)
      else .word [first] :: ofText rest := by
  have visible : first ≠ ' ' := by
    rintro rfl
    exact absurd name (by decide)
  simp [ofText, visible, name]

private theorem extend_append {first : Char} {left : List Token} (filled : left ≠ [])
    (right : List Token) : extend first (left ++ right) = extend first left ++ right := by
  rcases left with _ | ⟨_ | _, _⟩
  · exact absurd rfl filled
  · rfl
  · rfl

private theorem ofText_name_ne_nil {first : Char} (name : Text.isNameCharacter first)
    (rest : List Char) : ofText (first :: rest) ≠ [] := by
  rw [ofText_name name]
  split
  · rcases ofText rest with _ | ⟨_ | _, _⟩ <;> simp [extend]
  · simp

/-- Text can be cut between any two characters that are not both name characters. -/
theorem ofText_append {left right : List Char}
    (apart : left.getLast?.any Text.isNameCharacter = false ∨
      right.head?.any Text.isNameCharacter = false) :
    ofText (left ++ right) = ofText left ++ ofText right := by
  induction left with
  | nil => rfl
  | cons first rest ih =>
    by_cases space : first = ' '
    · cases rest with
      | nil => simp [ofText, space]
      | cons second rest =>
        simpa [ofText, space] using ih (by simpa using apart)
    · cases rest with
      | nil =>
        by_cases name : Text.isNameCharacter first
        · have free : right.head?.any Text.isNameCharacter = false := by
            simpa [name] using apart
          rw [List.singleton_append, ofText_name name, ofText_name name, free]
          rfl
        · simp [ofText, space, name]
      | cons second rest =>
        have later := ih (by simpa using apart)
        by_cases name : Text.isNameCharacter first
        · rw [List.cons_append, ofText_name name, ofText_name name, later]
          by_cases touches : Text.isNameCharacter second
          · simp [touches, extend_append (ofText_name_ne_nil touches rest)]
          · simp [touches]
        · simpa [ofText, space, name] using later

/-- A run of name characters is one word. -/
theorem ofText_word {word : List Char} (filled : word ≠ []) (names : word.all Text.isNameCharacter) :
    ofText word = [.word word] := by
  induction word with
  | nil => exact absurd rfl filled
  | cons first rest ih =>
    simp only [List.all_cons, Bool.and_eq_true] at names
    rw [ofText_name names.1]
    cases rest with
    | nil => rfl
    | cons second rest =>
      have touches : Text.isNameCharacter second := by
        have := names.2
        simp only [List.all_cons, Bool.and_eq_true] at this
        exact this.1
      simp [touches, ih (by simp) names.2, extend]

@[simp] theorem skip_append (expected rest : List Token) :
    skip expected (expected ++ rest) = some rest := by
  induction expected with
  | nil => rfl
  | cons first more ih => simp [skip, ih]

end Token

namespace Operand

/-- A word of digits is a number, and any other has a short name before its first dot. -/
def ofWord? (word : List Char) : Option Operand :=
  if word.all Char.isDigit then (Number.readInt64? (String.ofList word)).map .number
  else match word.dropWhile (· != '.') with
    | [] => none
    | _ :: name => some (.column (String.ofList (word.takeWhile (· != '.'))) (String.ofList name))

/-- The short name of a column has no dot, its own name may have some. -/
theorem ofWord?_column {short : String} (simple : '.' ∉ short.toList) (name : String) :
    ofWord? (short ++ "." ++ name).toList = some (.column short name) := by
  have spelled : (short ++ "." ++ name).toList = short.toList ++ '.' :: name.toList := by
    simp
  have unlike : ∀ character ∈ short.toList, (character != '.') = true := fun character member =>
    bne_iff_ne.mpr (ne_of_mem_of_not_mem member simple)
  have letters : (short.toList ++ '.' :: name.toList).all Char.isDigit = false := by
    simp [show ('.').isDigit = false from rfl]
  have before : (short.toList ++ '.' :: name.toList).takeWhile (· != '.') = short.toList :=
    takeWhile_append_of_stop unlike rfl
  have after : (short.toList ++ '.' :: name.toList).dropWhile (· != '.') = '.' :: name.toList := by
    rw [List.dropWhile_append_of_pos unlike]
    simp
  rw [spelled, ofWord?, letters, after, before]
  simp

def read : List Token → Option (Operand × List Token)
  | .sign '$' :: .word name :: rest => some (.parameter (String.ofList name), rest)
  | .sign '-' :: .word digits :: rest =>
    (Number.readInt64? (String.ofList ('-' :: digits))).map fun value => (.number value, rest)
  | .word word :: rest => (ofWord? word).map fun operand => (operand, rest)
  | _ => none

def readNumber (input : List Token) : Option (Int64 × List Token) :=
  match read input with
  | some (.number value, rest) => some (value, rest)
  | _ => none

end Operand

/-- A table and its short name. -/
def Source.read : List Token → Option (Source × List Token)
  | .word table :: .word short :: rest => some (⟨String.ofList table, String.ofList short⟩, rest)
  | _ => none

namespace Condition

/-- How much of a condition is read before another operator may follow. -/
inductive Level where
  | disjunction
  | conjunction
  | negation
  | test
deriving DecidableEq, Repr

/-- Read a condition from the front of the input. Each step takes one unit of fuel. -/
def readLevel : Nat → Level → List Token → Option (Condition × List Token)
  | 0, _, _ => none
  | fuel + 1, .disjunction, input => do
    let (left, rest) ← readLevel fuel .conjunction input
    match Token.skip (Token.phrase "OR") rest with
    | none => some (left, rest)
    | some rest =>
      let (right, rest) ← readLevel fuel .disjunction rest
      some (.or left right, rest)
  | fuel + 1, .conjunction, input => do
    let (left, rest) ← readLevel fuel .negation input
    match Token.skip (Token.phrase "AND") rest with
    | none => some (left, rest)
    | some rest =>
      let (right, rest) ← readLevel fuel .conjunction rest
      some (.and left right, rest)
  | fuel + 1, .negation, input =>
    match Token.skip (Token.phrase "NOT") input with
    | none => readLevel fuel .test input
    | some rest => do
      let (inner, rest) ← readLevel fuel .negation rest
      some (.not inner, rest)
  | fuel + 1, .test, input =>
    match Token.skip (Token.phrase "(") input, Token.skip (Token.phrase "SUM(CASE WHEN") input,
      Token.skip (Token.phrase "EXISTS (SELECT 1 FROM") input with
    | some rest, _, _ => do
      let (inner, rest) ← readLevel fuel .disjunction rest
      let rest ← Token.skip (Token.phrase ")") rest
      some (inner, rest)
    | none, some rest, _ => do
      let (test, rest) ← readLevel fuel .disjunction rest
      let rest ← Token.skip (Token.phrase "THEN") rest
      let (passed, rest) ← Operand.readNumber rest
      let rest ← Token.skip (Token.phrase "ELSE") rest
      let (other, rest) ← Operand.readNumber rest
      let rest ← Token.skip (Token.phrase "END) >") rest
      let (bound, rest) ← Operand.readNumber rest
      some (.sumExceeds test passed other bound, rest)
    | none, none, some rest => do
      let (first, rest) ← Source.read rest
      let rest ← Token.skip (Token.phrase "INNER JOIN") rest
      let (second, rest) ← Source.read rest
      let rest ← Token.skip (Token.phrase "ON") rest
      let (on, rest) ← readLevel fuel .disjunction rest
      let rest ← Token.skip (Token.phrase "WHERE") rest
      let (filter, rest) ← readLevel fuel .disjunction rest
      let rest ← Token.skip (Token.phrase ")") rest
      some (.existsJoin first second on filter, rest)
    | none, none, none => do
      let (left, rest) ← Operand.read input
      let rest ← Token.skip (Token.phrase "=") rest
      let (right, rest) ← Operand.read rest
      some (.equal left right, rest)

/-- The condition that a text is. No condition takes more steps than four for each of its
tokens and a few more. -/
def read? (text : String) : Option Condition :=
  let input := Token.ofText text.toList
  match readLevel (4 * input.length + 8) .disjunction input with
  | some (condition, []) => some condition
  | _ => none

end Condition

end TagQuery
