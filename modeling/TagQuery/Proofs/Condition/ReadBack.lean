import TagQuery.Proofs.Condition.Written

/-! The text of a predicate is read as its condition. -/

namespace TagQuery

namespace Operand

theorem read_columnToken {short : String} (simple : '.' ∉ short.toList) (name : String)
    (rest : List Token) :
    read (columnToken short name :: rest) = some (.column short name, rest) := by
  rw [columnToken, read, ofWord?_column simple]
  rfl

theorem read_numberTokens (value : Int64) (rest : List Token) :
    read (numberTokens value ++ rest) = some (.number value, rest) := by
  have written := Number.readInt64?_writeInt64 value
  unfold Number.writeInt64 Number.writeInt at written
  unfold numberTokens Number.writeInt64 Number.writeInt
  have digits (number : Nat) : (Nat.toDigits 10 number).all Char.isDigit := by
    simpa [Number.writeNat] using Number.all_isDigit_writeNat number
  have word (number : Nat) : Token.ofText (Nat.toDigits 10 number) =
      [.word (Nat.toDigits 10 number)] := by
    refine Token.ofText_word (by simp) (List.all_eq_true.mpr fun character member => ?_)
    have digit := List.all_eq_true.mp (digits number) character member
    simp [Text.isNameCharacter, Number.isIdentifierRest_of_isDigit digit]
  split at written
  · next number shown =>
    simp only [String.toList_ofList, word, List.cons_append, List.nil_append]
    rw [read, ofWord?, digits, written]
    rfl
  · next before shown =>
    have cut : Token.ofText ('-' :: Nat.toDigits 10 (before + 1)) =
        .sign '-' :: Token.ofText (Nat.toDigits 10 (before + 1)) := rfl
    simp only [String.toList_ofList, cut, word, List.cons_append, List.nil_append]
    rw [read, written]
    rfl

end Operand

theorem Source.read_words (table short : String) (rest : List Token) :
    read (.word table.toList :: .word short.toList :: rest) = some (⟨table, short⟩, rest) := by
  simp [read]

theorem Source.read_text {table short : String} (valid : Text.isQualifiedIdentifier table)
    (filled : short.toList ≠ []) (names : short.toList.all Text.isNameCharacter) :
    read (Token.ofText (table ++ " " ++ short).toList) = some (⟨table, short⟩, []) := by
  rw [String.toList_append, String.toList_append, List.append_assoc,
    Token.ofText_name_append (Text.toList_ne_nil valid) (Text.all_isNameCharacter valid) rfl,
    Token.ofText_before rfl, Token.ofText_word filled names]
  exact read_words table short []

/-- A column is not a word without a dot. -/
theorem Token.skip_columnToken {word : List Char} (plain : '.' ∉ word) (more : List Token)
    (short name : String) (rest : List Token) :
    skip (.word word :: more) (columnToken short name :: rest) = none := by
  have different : Token.word word ≠ columnToken short name := by
    intro same
    apply plain
    rw [columnToken, Token.word.injEq] at same
    simp [same]
  simp [skip, different]

namespace Condition

variable {fuel : Nat} {input after rest : List Token} {condition left right : Condition}

attribute [local simp] readLevel

theorem readLevel_conjunction (ends : Token.skip (Token.phrase "AND") rest = none)
    (read : readLevel fuel .negation input = some (condition, rest)) :
    readLevel (fuel + 1) .conjunction input = some (condition, rest) := by
  simp [read, ends]

theorem readLevel_and
    (first : readLevel fuel .negation input = some (left, Token.phrase "AND" ++ after))
    (second : readLevel fuel .conjunction after = some (right, rest)) :
    readLevel (fuel + 1) .conjunction input = some (.and left right, rest) := by
  simp [first, second]

theorem readLevel_disjunction (ends : Token.skip (Token.phrase "OR") rest = none)
    (read : readLevel fuel .conjunction input = some (condition, rest)) :
    readLevel (fuel + 1) .disjunction input = some (condition, rest) := by
  simp [read, ends]

theorem readLevel_or
    (first : readLevel fuel .conjunction input = some (left, Token.phrase "OR" ++ after))
    (second : readLevel fuel .disjunction after = some (right, rest)) :
    readLevel (fuel + 1) .disjunction input = some (.or left right, rest) := by
  simp [first, second]

theorem readLevel_negation (plain : Token.skip (Token.phrase "NOT") input = none)
    (read : readLevel fuel .test input = some (condition, rest)) :
    readLevel (fuel + 1) .negation input = some (condition, rest) := by
  simpa [plain] using read

theorem readLevel_enclosed
    (read : readLevel fuel .disjunction input = some (condition, Token.phrase ")" ++ rest)) :
    readLevel (fuel + 2) .negation (Token.phrase "(" ++ input) = some (condition, rest) := by
  refine readLevel_negation rfl ?_
  rw [readLevel, Token.skip_append]
  simp [read]

theorem readLevel_not
    (read : readLevel fuel .disjunction input = some (condition, Token.phrase ")" ++ rest)) :
    readLevel (fuel + 3) .negation (Token.phrase "NOT (" ++ input) =
      some (.not condition, rest) := by
  have cut : Token.phrase "NOT (" ++ input = Token.phrase "NOT" ++ (Token.phrase "(" ++ input) := rfl
  rw [cut, readLevel, Token.skip_append]
  simp only [readLevel_enclosed read]
  rfl

theorem readLevel_equal {one two : Operand} (apart : Token.skip (Token.phrase "(") input = none)
    (single : Token.skip (Token.phrase "SUM(CASE WHEN") input = none)
    (bare : Token.skip (Token.phrase "EXISTS (SELECT 1 FROM") input = none)
    (first : Operand.read input = some (one, Token.phrase "=" ++ after))
    (second : Operand.read after = some (two, rest)) :
    readLevel (fuel + 1) .test input = some (.equal one two, rest) := by
  rw [readLevel, apart, single, bare, first]
  simp [second]

/-- A comparison that a column begins. -/
theorem readLevel_equal_column (short name : String) {other : Operand}
    (simple : '.' ∉ short.toList) (second : Operand.read after = some (other, rest)) :
    readLevel (fuel + 2) .negation (columnToken short name :: (Token.phrase "=" ++ after)) =
      some (.equal (.column short name) other, rest) :=
  readLevel_negation (Token.skip_columnToken (by decide) [] short name _) <|
    readLevel_equal rfl (Token.skip_columnToken (by decide) _ short name _)
      (Token.skip_columnToken (by decide) _ short name _)
      (Operand.read_columnToken simple name _) second

theorem readLevel_sumExceeds {test : Condition}
    (read : readLevel fuel .disjunction input =
      some (test, Token.phrase "THEN 1 ELSE 0 END) > 0" ++ rest)) :
    readLevel (fuel + 1) .test (Token.phrase "SUM(CASE WHEN" ++ input) =
      some (.sumExceeds test 1 0 0, rest) := by
  have apart : Token.skip (Token.phrase "(") (Token.phrase "SUM(CASE WHEN" ++ input) = none := rfl
  rw [readLevel, apart, Token.skip_append]
  simp only [read]
  rfl

theorem readLevel_existsJoin {first second : Source} {on filter : Condition}
    {onInput filterInput : List Token}
    (sources : Source.read input = some (first, Token.phrase "INNER JOIN" ++ after))
    (joined : Source.read after = some (second, Token.phrase "ON" ++ onInput))
    (readOn : readLevel fuel .disjunction onInput =
      some (on, Token.phrase "WHERE" ++ filterInput))
    (readFilter : readLevel fuel .disjunction filterInput =
      some (filter, Token.phrase ")" ++ rest)) :
    readLevel (fuel + 1) .test (Token.phrase "EXISTS (SELECT 1 FROM" ++ input) =
      some (.existsJoin first second on filter, rest) := by
  have open_ : Token.skip (Token.phrase "(")
    (Token.phrase "EXISTS (SELECT 1 FROM" ++ input) = none := rfl
  have single : Token.skip (Token.phrase "SUM(CASE WHEN")
    (Token.phrase "EXISTS (SELECT 1 FROM" ++ input) = none := rfl
  rw [readLevel, open_, single, Token.skip_append]
  simp [sources, joined, readOn, readFilter]

theorem readLevel_carries {schema : Schema} (id : TagId) :
    readLevel (fuel + 6) .negation ((Atom.carries id).tokens schema ++ rest) =
      some ((Atom.carries id).condition schema, rest) := by
  simp only [Atom.tokens, List.append_assoc, List.cons_append]
  exact readLevel_negation rfl <| readLevel_sumExceeds <| readLevel_disjunction rfl <|
    readLevel_conjunction rfl <| readLevel_equal_column _ _ (by decide) <|
      Operand.read_numberTokens id.value _

theorem readLevel_carriesFamily {schema : Schema} (index : Nat) :
    readLevel (fuel + 7) .negation ((Atom.carriesFamily index).tokens schema ++ rest) =
      some ((Atom.carriesFamily index).condition schema, rest) := by
  have parameter : Operand.read (.sign '$' :: .word (familyParameter index).toList ::
      (Token.phrase ")" ++ rest)) =
      some (.parameter (familyParameter index), Token.phrase ")" ++ rest) := by
    simp [Operand.read]
  simp only [Atom.tokens, List.append_assoc, List.cons_append]
  exact readLevel_negation rfl <| readLevel_existsJoin (Source.read_words _ _ _)
    (Source.read_words _ _ _)
    (readLevel_disjunction rfl <| readLevel_conjunction rfl <|
      readLevel_equal_column _ _ (by decide) (Operand.read_columnToken (by decide) _ _))
    (readLevel_disjunction rfl <| readLevel_and
      (readLevel_equal_column _ _ (by decide) (Operand.read_columnToken (by decide) _ _))
      (readLevel_conjunction rfl (readLevel_equal_column _ _ (by decide) parameter)))

theorem readLevel_atom {schema : Schema} (atom : Atom) :
    readLevel (fuel + 7) .negation (atom.tokens schema ++ rest) =
      some (atom.condition schema, rest) := by
  cases atom with
  | always => rfl
  | carries id => exact readLevel_carries id
  | carriesFamily index => exact readLevel_carriesFamily index

/-- Two columns with a sign between them are read as their equality. -/
theorem read?_equal_columns {short short' name name' : String} (simple : '.' ∉ short.toList)
    (simple' : '.' ∉ short'.toList)
    (names : (short ++ "." ++ name).toList.all Text.isNameCharacter)
    (names' : (short' ++ "." ++ name').toList.all Text.isNameCharacter) :
    read? (short ++ "." ++ name ++ " = " ++ short' ++ "." ++ name') =
      some (.equal (.column short name) (.column short' name')) := by
  have pieces : (short ++ "." ++ name ++ " = " ++ short' ++ "." ++ name').toList =
      (short ++ "." ++ name).toList ++ (" = ".toList ++ (short' ++ "." ++ name').toList) := by
    simp only [String.toList_append, List.append_assoc]
  have tokens : Token.ofText (short ++ "." ++ name ++ " = " ++ short' ++ "." ++ name').toList =
      columnToken short name :: (Token.phrase "=" ++ [columnToken short' name']) := by
    rw [pieces, Token.ofText_name_append (by simp) names rfl, Token.ofText_before rfl,
      Token.ofText_word (by simp) names']
    rfl
  have read : readLevel 20 .disjunction (columnToken short name ::
      (Token.phrase "=" ++ [columnToken short' name'])) = some (_, []) :=
    readLevel_disjunction rfl <| readLevel_conjunction rfl <|
      readLevel_equal_column _ _ simple (Operand.read_columnToken simple' _ _)
  have size : (columnToken short name :: (Token.phrase "=" ++ [columnToken short' name'])).length =
    3 := rfl
  unfold read?
  simp only [tokens, size, read]

end Condition

namespace Predicate

/-- How many steps the tokens of a predicate take. -/
def steps : Predicate → Nat
  | .leaf _ => 7
  | .and left right => max (steps left) (steps right) + 5
  | .or left right => max (steps left) (steps right) + 5
  | .not inner => steps inner + 5

theorem readLevel_tokens (schema : Schema) (predicate : Predicate) {fuel : Nat}
    (enough : steps predicate ≤ fuel) (rest : List Token) :
    Condition.readLevel fuel .negation (tokens schema predicate ++ rest) =
      some (predicate.condition schema, rest) := by
  induction predicate generalizing fuel rest with
  | leaf atom =>
    obtain ⟨extra, rfl⟩ : ∃ extra, fuel = extra + 7 := Nat.exists_eq_add_of_le' enough
    exact Condition.readLevel_atom atom
  | and left right readLeft readRight =>
    simp only [steps] at enough
    obtain ⟨extra, rfl⟩ : ∃ extra, fuel = extra + 5 := ⟨fuel - 5, by omega⟩
    simp only [tokens, List.append_assoc]
    exact Condition.readLevel_enclosed <| Condition.readLevel_disjunction rfl <|
      Condition.readLevel_and (readLeft (by omega) _) <|
        Condition.readLevel_conjunction rfl (readRight (by omega) _)
  | or left right readLeft readRight =>
    simp only [steps] at enough
    obtain ⟨extra, rfl⟩ : ∃ extra, fuel = extra + 5 := ⟨fuel - 5, by omega⟩
    simp only [tokens, List.append_assoc]
    exact Condition.readLevel_enclosed <| Condition.readLevel_or
      (Condition.readLevel_conjunction rfl (readLeft (by omega) _)) <|
        Condition.readLevel_disjunction rfl <|
          Condition.readLevel_conjunction rfl (readRight (by omega) _)
  | not inner readInner =>
    simp only [steps] at enough
    obtain ⟨extra, rfl⟩ : ∃ extra, fuel = extra + 5 := ⟨fuel - 5, by omega⟩
    simp only [tokens, List.append_assoc]
    exact Condition.readLevel_not <| Condition.readLevel_disjunction rfl <|
      Condition.readLevel_conjunction rfl (readInner (by omega) _)

theorem steps_le (schema : Schema) (predicate : Predicate) :
    steps predicate ≤ 4 * (tokens schema predicate).length := by
  have opening : (Token.phrase "(").length = 1 := rfl
  have closing : (Token.phrase ")").length = 1 := rfl
  induction predicate with
  | leaf atom =>
    have long : 2 ≤ (atom.tokens schema).length := by
      cases atom with
      | always => exact (show 2 ≤ (Token.phrase "1=1").length by decide)
      | carries id =>
        have start : (Token.phrase "SUM(CASE WHEN").length = 4 := rfl
        simp only [Atom.tokens, List.length_append, start]
        omega
      | carriesFamily index =>
        have start : (Token.phrase "EXISTS (SELECT 1 FROM").length = 5 := rfl
        simp only [Atom.tokens, List.length_append, start]
        omega
    simp only [steps, tokens]
    omega
  | and left right stepsLeft stepsRight =>
    simp only [steps, tokens, List.length_append, opening, closing]
    omega
  | or left right stepsLeft stepsRight =>
    simp only [steps, tokens, List.length_append, opening, closing]
    omega
  | not inner stepsInner =>
    have negation : (Token.phrase "NOT (").length = 2 := rfl
    simp only [steps, tokens, List.length_append, negation]
    omega

/-- The text of a predicate is read as its condition, whatever the names of the schema. -/
theorem read?_text {schema : Schema} (named : schema.Named) (predicate : Predicate) :
    Condition.read? (text schema predicate) = some (predicate.condition schema) := by
  have bound := steps_le schema predicate
  have read : Condition.readLevel (4 * (tokens schema predicate).length + 8) .disjunction
      (tokens schema predicate ++ []) = some (predicate.condition schema, []) :=
    Condition.readLevel_disjunction rfl <| Condition.readLevel_conjunction rfl <|
      readLevel_tokens schema predicate (by omega) []
  rw [Condition.read?, ofText_text named]
  rw [List.append_nil] at read
  simp only [read]

end Predicate

end TagQuery
