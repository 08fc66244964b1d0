import TagQuery.Listing.Queries
import TagQuery.Proofs.Condition.ReadBack
import TagQuery.Proofs.Statement.Pattern

/-! Searches: conditions that also compare a text with a pattern, and how they are read. -/

namespace TagQuery

/-- Whether a text matches a pattern. That is unknown when either is null. -/
def Value.matchedBy (alike : Char → Char → Bool) (escape : Char) : Value → Value → Truth
  | .text found, .text pattern =>
    (Pattern.parts? escape pattern.toList).map (Pattern.admits alike · found.toList)
  | _, _ => none

theorem Value.matchedBy_containing (alike : Char → Char → Bool) (found sought : String) :
    ((text found).matchedBy alike '\\' (text (Pattern.containing sought))).Decides
      (Text.Contains alike found sought) := by
  rw [matchedBy, Pattern.parts?_containing]
  exact Truth.decides_some Pattern.admits_containingParts_iff

/-- A condition on a row that may compare texts with patterns. -/
inductive Search where
  | plain (condition : Condition)
  | matching (subject pattern : Operand) (escape : Char)
  | and (left right : Search)
deriving DecidableEq, Repr

namespace Search

/-- The truth of a search on the rows in sight. Two characters are alike when the operator of
the database takes them for one another. -/
def truth (alike : Char → Char → Bool) (database : Database) (params : Params) (scope : Scope) :
    Search → Truth
  | .plain condition => condition.truth database params [] scope
  | .matching subject pattern escape =>
    (subject.value params scope).matchedBy alike escape (pattern.value params scope)
  | .and left right =>
    (left.truth alike database params scope).and (right.truth alike database params scope)

/-- A comparison with a pattern, and the character that its escape clause names. -/
def readPattern (input : List Token) : Option (Search × List Token) := do
  let (subject, rest) ← Operand.read input
  let rest ← (Token.skip (Token.phrase "LIKE") rest).or (Token.skip (Token.phrase "ILIKE") rest)
  let (pattern, rest) ← Operand.read rest
  match ← Token.skip (Token.phrase "ESCAPE '") rest with
  | .sign escape :: .sign '\'' :: rest => some (.matching subject pattern escape, rest)
  | _ => none

def readTest (input : List Token) : Option (Search × List Token) :=
  match readPattern input with
  | some read => some read
  | none => (Condition.readLevel (4 * input.length + 8) .negation input).map fun (test, rest) =>
    (.plain test, rest)

/-- Read tests with `AND` between them. Each of them takes one unit of fuel. -/
def readTests : Nat → List Token → Option Search
  | 0, _ => none
  | fuel + 1, input => do
    match ← readTest input with
    | (test, []) => some test
    | (test, rest) =>
      let rest ← Token.skip (Token.phrase "AND") rest
      some (.and test (← readTests fuel rest))

def read? (text : String) : Option Search :=
  let input := Token.ofText text.toList
  readTests input.length input

end Search

/-- What a search for tags compares. -/
def Tag.search (query : Tag) : Search :=
  match query.value with
  | none => .matching (.column "t" "key") (.parameter "key_pattern") '\\'
  | some _ => .and (.plain (.equal (.column "t" "key") (.parameter "tag_key")))
      (.matching (.column "t" "value") (.parameter "value_pattern") '\\')

theorem Schema.read?_tagCondition (schema : Schema) (query : Tag) :
    Search.read? (schema.tagCondition query) = some query.search := by
  -- No part of the four texts varies, so each of them is read by computing.
  rcases query with ⟨key, _ | value⟩ <;> cases dialect : schema.dialect <;>
    simp only [tagCondition, dialect, Dialect.matchOperator, Search.read?, String.toList_append,
      String.reduceToList, List.cons_append, List.nil_append] <;>
    rfl

end TagQuery
