import TagQuery.Proofs.Condition.Reader
import TagQuery.Proofs.Number.Decimal
import TagQuery.Proofs.Schema.Names
import TagQuery.Listing.Predicate

/-! The condition that the text of a predicate is read as. -/

namespace TagQuery

/-- The condition an atom is written as. -/
def Atom.condition (schema : Schema) : Atom → Condition
  | .always => .equal (.number 1) (.number 1)
  | .carries id =>
    .sumExceeds (.equal (.column "et" schema.association.tagColumn) (.number id.value)) 1 0 0
  | .carriesFamily index =>
    .existsJoin ⟨schema.association.table, "fet"⟩ ⟨schema.tags.table, "ft"⟩
      (.equal (.column "ft" "id") (.column "fet" schema.association.tagColumn))
      (.and
        (.equal (.column "fet" schema.association.entityColumn)
          (.column "e" schema.entity.idColumn))
        (.equal (.column "ft" "key") (.parameter (familyParameter index))))

def Predicate.condition (schema : Schema) : Predicate → Condition
  | .leaf atom => atom.condition schema
  | .and left right => .and (condition schema left) (condition schema right)
  | .or left right => .or (condition schema left) (condition schema right)
  | .not inner => .not (condition schema inner)

/-- The token of a column. -/
def columnToken (short name : String) : Token := .word (short ++ "." ++ name).toList

/-- The tokens of a number. -/
def numberTokens (value : Int64) : List Token := Token.ofText (Number.writeInt64 value).toList

def Atom.tokens (schema : Schema) : Atom → List Token
  | .always => Token.phrase "1=1"
  | .carries id =>
    Token.phrase "SUM(CASE WHEN" ++ (columnToken "et" schema.association.tagColumn ::
      (Token.phrase "=" ++ (numberTokens id.value ++ Token.phrase "THEN 1 ELSE 0 END) > 0")))
  | .carriesFamily index =>
    Token.phrase "EXISTS (SELECT 1 FROM" ++
      (.word schema.association.table.toList :: .word "fet".toList ::
      (Token.phrase "INNER JOIN" ++ (.word schema.tags.table.toList :: .word "ft".toList ::
      (Token.phrase "ON" ++ (columnToken "ft" "id" ::
      (Token.phrase "=" ++ (columnToken "fet" schema.association.tagColumn ::
      (Token.phrase "WHERE" ++ (columnToken "fet" schema.association.entityColumn ::
      (Token.phrase "=" ++ (columnToken "e" schema.entity.idColumn ::
      (Token.phrase "AND" ++ (columnToken "ft" "key" ::
      (Token.phrase "=" ++ (.sign '$' :: .word (familyParameter index).toList ::
      Token.phrase ")")))))))))))))))

def Predicate.tokens (schema : Schema) : Predicate → List Token
  | .leaf atom => atom.tokens schema
  | .and left right =>
    Token.phrase "(" ++ (tokens schema left ++ (Token.phrase "AND" ++
      (tokens schema right ++ Token.phrase ")")))
  | .or left right =>
    Token.phrase "(" ++ (tokens schema left ++ (Token.phrase "OR" ++
      (tokens schema right ++ Token.phrase ")")))
  | .not inner => Token.phrase "NOT (" ++ (tokens schema inner ++ Token.phrase ")")

namespace Token

theorem ofText_before {left right : List Char}
    (apart : left.getLast?.any Text.isNameCharacter = false) :
    ofText (left ++ right) = ofText left ++ ofText right :=
  ofText_append (.inl apart)

theorem phrase_space (text : String) : ofText (text ++ " ").toList = phrase text := by
  rw [String.toList_append, ofText_append (.inr rfl)]
  exact List.append_nil _

theorem space_phrase (text : String) : ofText (" " ++ text).toList = phrase text := by
  rw [String.toList_append, ofText_before rfl]
  rfl

/-- A name with text after it that it does not touch. -/
theorem ofText_name_append {name : String} {right : List Char} (filled : name.toList ≠ [])
    (names : name.toList.all Text.isNameCharacter)
    (apart : right.head?.any Text.isNameCharacter = false) :
    ofText (name.toList ++ right) = .word name.toList :: ofText right := by
  rw [ofText_append (.inr apart), ofText_word filled names, List.singleton_append]

end Token

theorem all_isNameCharacter_column {short name : String}
    (shorts : short.toList.all Text.isNameCharacter)
    (valid : Text.isQualifiedIdentifier name) :
    (short ++ "." ++ name).toList.all Text.isNameCharacter := by
  have dot : Text.isNameCharacter '.' := by decide
  simp [shorts, dot, Text.all_isNameCharacter valid]

private theorem familyParameter_names (index : Nat) :
    (familyParameter index).toList.all Text.isNameCharacter := by
  have digits := List.all_eq_true.mp (Number.all_isDigit_writeNat index)
  have start : "family_".toList.all Text.isNameCharacter := by decide
  rw [familyParameter, String.toList_append, List.all_append, start, Bool.true_and,
    List.all_eq_true]
  intro character member
  simp [Text.isNameCharacter, Number.isIdentifierRest_of_isDigit (digits character member)]

/-- The tokens of an atom's text. No two of the pieces it is cut into touch. -/
theorem Atom.ofText_text {schema : Schema} (named : schema.Named) (atom : Atom) :
    Token.ofText (atom.text schema).toList = atom.tokens schema := by
  cases atom with
  | always => rfl
  | carries id =>
    have pieces : (carriesText schema id).toList = "SUM(CASE WHEN ".toList ++
        (("et" ++ "." ++ schema.association.tagColumn).toList ++ (" = ".toList ++
          ((Number.writeInt64 id.value).toList ++ " THEN 1 ELSE 0 END) > 0".toList))) := by
      unfold carriesText TagId.text
      simp only [String.toList_append, List.append_assoc, String.reduceToList, List.cons_append,
        List.nil_append]
    have opening : Token.ofText "SUM(CASE WHEN ".toList = Token.phrase "SUM(CASE WHEN" :=
      Token.phrase_space "SUM(CASE WHEN"
    have closing : Token.ofText " THEN 1 ELSE 0 END) > 0".toList =
        Token.phrase "THEN 1 ELSE 0 END) > 0" :=
      Token.space_phrase "THEN 1 ELSE 0 END) > 0"
    rw [Atom.text, pieces, Token.ofText_before,
      Token.ofText_name_append (by simp) (all_isNameCharacter_column (by decide) named.tagColumn),
      Token.ofText_before, Token.ofText_append (.inr rfl), opening, closing] <;> rfl
  | carriesFamily index =>
    have pieces : (carriesFamilyText schema index).toList = "EXISTS (SELECT 1 FROM ".toList ++
        (schema.association.table.toList ++ (" fet INNER JOIN ".toList ++
        (schema.tags.table.toList ++ (" ft ON ft.id = ".toList ++
        (("fet" ++ "." ++ schema.association.tagColumn).toList ++ (" WHERE ".toList ++
        (("fet" ++ "." ++ schema.association.entityColumn).toList ++ (" = ".toList ++
        (("e" ++ "." ++ schema.entity.idColumn).toList ++ (" AND ft.key = $".toList ++
        ((familyParameter index).toList ++ ")".toList))))))))))) := by
      unfold carriesFamilyText
      simp only [String.toList_append, List.append_assoc, String.reduceToList, List.cons_append,
        List.nil_append]
    have opening : Token.ofText "EXISTS (SELECT 1 FROM ".toList =
        Token.phrase "EXISTS (SELECT 1 FROM" :=
      Token.phrase_space "EXISTS (SELECT 1 FROM"
    rw [Atom.text, pieces, Token.ofText_before,
      Token.ofText_name_append (Text.toList_ne_nil named.associationTable)
        (Text.all_isNameCharacter named.associationTable),
      Token.ofText_before,
      Token.ofText_name_append (Text.toList_ne_nil named.tagTable)
        (Text.all_isNameCharacter named.tagTable),
      Token.ofText_before,
      Token.ofText_name_append (by simp) (all_isNameCharacter_column (by decide) named.tagColumn),
      Token.ofText_before,
      Token.ofText_name_append (by simp) (all_isNameCharacter_column (by decide) named.entityColumn),
      Token.ofText_before,
      Token.ofText_name_append (by simp) (all_isNameCharacter_column (by decide) named.idColumn),
      Token.ofText_before,
      Token.ofText_name_append (by simp [familyParameter]) (familyParameter_names index),
      opening] <;> rfl

/-- Two texts in parentheses with a word between them that touches neither. -/
private theorem ofText_pair (left right : String) {word : String}
    (opens : word.toList.head?.any Text.isNameCharacter = false)
    (ends : word.toList.getLast?.any Text.isNameCharacter = false) (filled : word.toList ≠ []) :
    Token.ofText ("(" ++ left ++ word ++ right ++ ")").toList =
      Token.phrase "(" ++ (Token.ofText left.toList ++ (Token.ofText word.toList ++
        (Token.ofText right.toList ++ Token.phrase ")"))) := by
  have pieces : ("(" ++ left ++ word ++ right ++ ")").toList = "(".toList ++
      (left.toList ++ (word.toList ++ (right.toList ++ ")".toList))) := by
    simp only [String.toList_append, List.append_assoc]
  have apart : (word.toList ++ (right.toList ++ ")".toList)).head?.any Text.isNameCharacter =
      false := by
    obtain ⟨first, more, shown⟩ := List.exists_cons_of_ne_nil filled
    rw [shown] at opens ⊢
    exact opens
  rw [pieces, Token.ofText_before rfl, Token.ofText_append (.inr apart), Token.ofText_before ends,
    Token.ofText_append (.inr rfl)]
  rfl

/-- The tokens of a predicate's text. -/
theorem Predicate.ofText_text {schema : Schema} (named : schema.Named) (predicate : Predicate) :
    Token.ofText (Predicate.text schema predicate).toList = Predicate.tokens schema predicate := by
  induction predicate with
  | leaf atom => exact atom.ofText_text named
  | and left right leftTokens rightTokens =>
    rw [Predicate.text, ofText_pair _ _ rfl rfl (by simp), leftTokens, rightTokens]
    rfl
  | or left right leftTokens rightTokens =>
    rw [Predicate.text, ofText_pair _ _ rfl rfl (by simp), leftTokens, rightTokens]
    rfl
  | not inner innerTokens =>
    have pieces : (Predicate.text schema (.not inner)).toList = "NOT (".toList ++
        ((Predicate.text schema inner).toList ++ ")".toList) := by
      simp only [Predicate.text, String.toList_append, List.append_assoc]
    rw [pieces, Token.ofText_before rfl, Token.ofText_append (.inr rfl), innerTokens]
    rfl

end TagQuery
