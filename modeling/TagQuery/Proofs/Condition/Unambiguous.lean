import TagQuery.Proofs.Condition.Grammar
import TagQuery.Proofs.Listing.Families

/-! The text of a predicate has one reading, whatever names the schema has. A name may be spelled
like an operator: the places of names are fixed by what stands before them. -/

namespace TagQuery

namespace Condition

variable {tokens tokens' : List Token} {condition condition' : Condition}

/-- Tokens that are read in one way before a closing parenthesis. -/
def Filling (tokens : List Token) (condition : Condition) : Prop :=
  ∀ rest other after stop, Reads .disjunction (tokens ++ (Token.phrase ")" ++ rest)) other after →
    Token.skip (Token.phrase ")") after = some stop → other = condition ∧ stop = rest

theorem Single.filling (single : Single tokens condition) : Filling tokens condition := by
  intro rest other after stop read closing
  obtain ⟨rfl, rfl⟩ := single.alone (fun joint => by cases joint <;> rfl) read
  rw [Token.skip_append] at closing
  cases closing
  exact ⟨rfl, rfl⟩

/-- A pair is read as a whole: the parenthesis does not come after its first condition. -/
theorem Single.filling_pair (joint : Joint) (left : Single tokens condition)
    (right : Single tokens' condition') :
    Filling (tokens ++ (joint.sign ++ tokens')) (joint.joined condition condition') := by
  intro rest other after stop read closing
  simp only [List.append_assoc] at read
  rcases left.pair right joint (fun joint => by cases joint <;> rfl) read with
    ⟨_, rfl⟩ | ⟨rfl, rfl⟩
  · cases joint <;> cases closing
  · rw [Token.skip_append] at closing
    cases closing
    exact ⟨rfl, rfl⟩

theorem Filling.enclosed (filling : Filling tokens condition) :
    Single (Token.phrase "(" ++ (tokens ++ Token.phrase ")")) condition := by
  intro rest other stop reads
  simp only [List.append_assoc] at reads
  cases reads with
  | not sign => cases sign
  | test read =>
    cases read with
    | enclosed opening read closing =>
      rw [Token.skip_append] at opening
      cases opening
      exact filling _ _ _ _ read closing
    | equal first => cases first
    | sumExceeds opening => cases opening
    | existsJoin opening => cases opening

/-- No operand begins with the word. -/
private theorem read_word {word : List Char} (plain : Operand.ofWord? word = none)
    (rest : List Token) : Operand.read (.word word :: rest) = none := by
  rw [Operand.read, plain]
  rfl

theorem Single.negated (single : Single tokens condition) :
    Single (Token.phrase "NOT" ++ tokens) (.not condition) := by
  intro rest other stop reads
  rw [List.append_assoc] at reads
  cases reads with
  | not sign read =>
    rw [Token.skip_append] at sign
    cases sign
    obtain ⟨rfl, rfl⟩ := single _ _ _ read
    exact ⟨rfl, rfl⟩
  | test read =>
    cases read with
    | enclosed opening => cases opening
    | equal first => exact absurd ((read_word (by rfl) _).symm.trans first) nofun
    | sumExceeds opening => cases opening
    | existsJoin opening => cases opening

/-- A comparison that a column begins. -/
theorem single_equal {short : String} (simple : '.' ∉ short.toList) (name : String) {value : Operand}
    (reads : ∀ rest, Operand.read (tokens ++ rest) = some (value, rest)) :
    Single (columnToken short name :: (Token.phrase "=" ++ tokens))
      (.equal (.column short name) value) := by
  intro rest other stop read
  rw [List.cons_append, List.append_assoc] at read
  -- a column has a dot, which no keyword has
  have apart (keyword : List Char) (plain : '.' ∉ keyword) (more : List Token) :
      Token.skip (.word keyword :: more)
        (columnToken short name :: (Token.phrase "=" ++ (tokens ++ rest))) = none :=
    Token.skip_columnToken plain more short name _
  cases read with
  | not sign => exact absurd ((apart _ (by decide) []).symm.trans sign) nofun
  | test read =>
    cases read with
    | enclosed opening => cases opening
    | equal first sign second =>
      rw [Operand.read_columnToken simple] at first
      cases first
      rw [Token.skip_append] at sign
      cases sign
      rw [reads] at second
      cases second
      exact ⟨rfl, rfl⟩
    | sumExceeds opening => exact absurd ((apart _ (by decide) _).symm.trans opening) nofun
    | existsJoin opening => exact absurd ((apart _ (by decide) _).symm.trans opening) nofun

theorem single_always : Single (Token.phrase "1=1") (.equal (.number 1) (.number 1)) := by
  intro rest other stop reads
  cases reads with
  | not sign => cases sign
  | test read =>
    cases read with
    | enclosed opening => cases opening
    | equal first sign second =>
      cases first
      cases sign
      cases second
      exact ⟨rfl, rfl⟩
    | sumExceeds opening => cases opening
    | existsJoin opening => cases opening

/-- The count of the rows that pass a test, compared with nothing. -/
theorem Single.sumExceeds (single : Single tokens condition) :
    Single (Token.phrase "SUM(CASE WHEN" ++ (tokens ++ Token.phrase "THEN 1 ELSE 0 END) > 0"))
      (.sumExceeds condition 1 0 0) := by
  intro rest other stop reads
  simp only [List.append_assoc] at reads
  cases reads with
  | not sign => cases sign
  | test read =>
    cases read with
    | enclosed opening => cases opening
    | equal first => exact absurd ((read_word (by rfl) _).symm.trans first) nofun
    | sumExceeds opening read yields readPassed otherwise readOther closing readBound =>
      rw [Token.skip_append] at opening
      cases opening
      obtain ⟨rfl, rfl⟩ := single.alone (fun joint => by cases joint <;> rfl) read
      cases yields
      cases readPassed
      cases otherwise
      cases readOther
      cases closing
      cases readBound
      exact ⟨rfl, rfl⟩
    | existsJoin opening => cases opening

/-- Two sources, what they are joined on, and what filters the pairs. -/
theorem Filling.existsJoin (first second : Source) (joined : Single tokens condition)
    (filtered : Filling tokens' condition') :
    Single (Token.phrase "EXISTS (SELECT 1 FROM" ++
      (.word first.table.toList :: .word first.short.toList :: (Token.phrase "INNER JOIN" ++
      (.word second.table.toList :: .word second.short.toList :: (Token.phrase "ON" ++
      (tokens ++ (Token.phrase "WHERE" ++ (tokens' ++ Token.phrase ")"))))))))
      (.existsJoin first second condition condition') := by
  intro rest other stop reads
  simp only [List.append_assoc, List.cons_append] at reads
  cases reads with
  | not sign => cases sign
  | test read =>
    cases read with
    | enclosed opening => cases opening
    | equal left => exact absurd ((read_word (by rfl) _).symm.trans left) nofun
    | sumExceeds opening => cases opening
    | existsJoin opening readFirst joins readSecond where_ readOn filters readFilter closing =>
      rw [Token.skip_append] at opening
      cases opening
      rw [Source.read_words] at readFirst
      cases readFirst
      rw [Token.skip_append] at joins
      cases joins
      rw [Source.read_words] at readSecond
      cases readSecond
      rw [Token.skip_append] at where_
      cases where_
      obtain ⟨rfl, rfl⟩ := joined.alone (fun joint => by cases joint <;> rfl) readOn
      rw [Token.skip_append] at filters
      cases filters
      obtain ⟨rfl, rfl⟩ := filtered _ _ _ _ readFilter closing
      exact ⟨rfl, rfl⟩

/-- A text is a condition when all of its tokens can be read as it. -/
def IsReading (text : String) (condition : Condition) : Prop :=
  Reads .disjunction (Token.ofText text.toList) condition []

theorem isReading_of_read? {text : String} {condition : Condition}
    (read : read? text = some condition) : IsReading text condition := by
  unfold read? at read
  dsimp only at read
  split at read
  · next found => exact reads_of_readLevel (found.trans (by rw [Option.some.inj read]))
  · cases read

end Condition

theorem Atom.single_tokens (schema : Schema) (atom : Atom) :
    Condition.Single (atom.tokens schema) (atom.condition schema) := by
  cases atom with
  | always => exact Condition.single_always
  | carries id =>
    have simple : '.' ∉ ("et" : String).toList := by decide
    have equal := Condition.single_equal simple schema.association.tagColumn
      (Operand.read_numberTokens id.value)
    simpa only [tokens, condition, List.append_assoc, List.cons_append] using equal.sumExceeds
  | carriesFamily index =>
    have equal (short name other name' : String) (simple : '.' ∉ short.toList)
        (simple' : '.' ∉ other.toList) :
        Condition.Single (columnToken short name :: (Token.phrase "=" ++ [columnToken other name']))
          (.equal (.column short name) (.column other name')) :=
      Condition.single_equal simple name fun rest => Operand.read_columnToken simple' name' rest
    have key : Condition.Single (columnToken "ft" "key" ::
        (Token.phrase "=" ++ [.sign '$', .word (familyParameter index).toList]))
        (.equal (.column "ft" "key") (.parameter (familyParameter index))) := by
      refine Condition.single_equal (by decide) "key" fun rest => ?_
      simp [Operand.read]
    have joined := equal "ft" "id" "fet" schema.association.tagColumn (by decide) (by decide)
    have entity := equal "fet" schema.association.entityColumn "e" schema.entity.idColumn
      (by decide) (by decide)
    have family := (entity.filling_pair .and key).existsJoin ⟨schema.association.table, "fet"⟩
      ⟨schema.tags.table, "ft"⟩ joined
    simpa only [tokens, condition, Condition.Joint.sign, Condition.Joint.joined, List.append_assoc,
      List.cons_append, List.nil_append] using family

namespace Predicate

/-- The tokens of a predicate are read in one way, as its condition. -/
theorem single_tokens (schema : Schema) (predicate : Predicate) :
    Condition.Single (tokens schema predicate) (predicate.condition schema) := by
  induction predicate with
  | leaf atom => exact atom.single_tokens schema
  | and left right first second =>
    have both := (first.filling_pair .and second).enclosed
    simpa only [tokens, condition, Condition.Joint.sign, Condition.Joint.joined,
      List.append_assoc] using both
  | or left right first second =>
    have both := (first.filling_pair .or second).enclosed
    simpa only [tokens, condition, Condition.Joint.sign, Condition.Joint.joined,
      List.append_assoc] using both
  | not inner single => exact single.filling.enclosed.negated

/-- The text of a predicate is its condition and no other. -/
theorem isReading_iff {schema : Schema} (named : schema.Named) (predicate : Predicate)
    (condition : Condition) :
    Condition.IsReading (text schema predicate) condition ↔
      condition = predicate.condition schema := by
  constructor
  · intro reading
    rw [Condition.IsReading, ofText_text named, ← List.append_nil (tokens schema predicate)] at reading
    exact ((single_tokens schema predicate).alone (fun joint => by cases joint <;> rfl) reading).1
  · rintro rfl
    exact Condition.isReading_of_read? (read?_text named predicate)

end Predicate

end TagQuery
