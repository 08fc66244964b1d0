import TagQuery.Proofs.Condition.ReadBack

/-! The grammar of conditions. Where the reader goes one way through its input, the grammar admits
every way that the precedence of the operators leaves open. -/

namespace TagQuery

namespace Condition

/-- A condition at the front of some tokens, and the tokens after it. Neighbours under one
operator may be grouped from either side, and a condition may end wherever it is whole. -/
inductive Reads : Level → List Token → Condition → List Token → Prop
  | conjunction {input rest : List Token} {condition : Condition}
      (read : Reads .conjunction input condition rest) : Reads .disjunction input condition rest
  | or {input middle after rest : List Token} {left right : Condition}
      (first : Reads .disjunction input left middle)
      (sign : Token.skip (Token.phrase "OR") middle = some after)
      (second : Reads .disjunction after right rest) :
      Reads .disjunction input (.or left right) rest
  | negation {input rest : List Token} {condition : Condition}
      (read : Reads .negation input condition rest) : Reads .conjunction input condition rest
  | and {input middle after rest : List Token} {left right : Condition}
      (first : Reads .conjunction input left middle)
      (sign : Token.skip (Token.phrase "AND") middle = some after)
      (second : Reads .conjunction after right rest) :
      Reads .conjunction input (.and left right) rest
  | test {input rest : List Token} {condition : Condition}
      (read : Reads .test input condition rest) : Reads .negation input condition rest
  | not {input inside rest : List Token} {inner : Condition}
      (sign : Token.skip (Token.phrase "NOT") input = some inside)
      (read : Reads .negation inside inner rest) : Reads .negation input (.not inner) rest
  | enclosed {input inside after rest : List Token} {inner : Condition}
      (opening : Token.skip (Token.phrase "(") input = some inside)
      (read : Reads .disjunction inside inner after)
      (closing : Token.skip (Token.phrase ")") after = some rest) : Reads .test input inner rest
  | equal {input middle after rest : List Token} {left right : Operand}
      (first : Operand.read input = some (left, middle))
      (sign : Token.skip (Token.phrase "=") middle = some after)
      (second : Operand.read after = some (right, rest)) : Reads .test input (.equal left right) rest
  | sumExceeds {input inside one passing two failing three bounding rest : List Token}
      {test : Condition} {passed other bound : Int64}
      (opening : Token.skip (Token.phrase "SUM(CASE WHEN") input = some inside)
      (read : Reads .disjunction inside test one)
      (yields : Token.skip (Token.phrase "THEN") one = some passing)
      (readPassed : Operand.readNumber passing = some (passed, two))
      (otherwise : Token.skip (Token.phrase "ELSE") two = some failing)
      (readOther : Operand.readNumber failing = some (other, three))
      (closing : Token.skip (Token.phrase "END) >") three = some bounding)
      (readBound : Operand.readNumber bounding = some (bound, rest)) :
      Reads .test input (.sumExceeds test passed other bound) rest
  | existsJoin {input inside one joining two onInput three filterInput after rest : List Token}
      {first second : Source} {on filter : Condition}
      (opening : Token.skip (Token.phrase "EXISTS (SELECT 1 FROM") input = some inside)
      (readFirst : Source.read inside = some (first, one))
      (joins : Token.skip (Token.phrase "INNER JOIN") one = some joining)
      (readSecond : Source.read joining = some (second, two))
      (where_ : Token.skip (Token.phrase "ON") two = some onInput)
      (readOn : Reads .disjunction onInput on three)
      (filters : Token.skip (Token.phrase "WHERE") three = some filterInput)
      (readFilter : Reads .disjunction filterInput filter after)
      (closing : Token.skip (Token.phrase ")") after = some rest) :
      Reads .test input (.existsJoin first second on filter) rest

/-- What the reader finds is one of the ways. -/
theorem reads_of_readLevel {fuel : Nat} {level : Level} {input rest : List Token}
    {condition : Condition} (read : readLevel fuel level input = some (condition, rest)) :
    Reads level input condition rest := by
  induction fuel generalizing level input condition rest with
  | zero => cases read
  | succ fuel ih =>
    cases level with
    | disjunction =>
      simp only [readLevel, Option.bind_eq_bind, Option.bind_eq_some_iff] at read
      obtain ⟨⟨left, middle⟩, first, read⟩ := read
      dsimp only at read
      split at read
      · cases read
        exact .conjunction (ih first)
      · next after sign =>
        simp only [Option.bind_eq_some_iff] at read
        obtain ⟨⟨right, rest'⟩, second, read⟩ := read
        cases read
        exact .or (.conjunction (ih first)) sign (ih second)
    | conjunction =>
      simp only [readLevel, Option.bind_eq_bind, Option.bind_eq_some_iff] at read
      obtain ⟨⟨left, middle⟩, first, read⟩ := read
      dsimp only at read
      split at read
      · cases read
        exact .negation (ih first)
      · next after sign =>
        simp only [Option.bind_eq_some_iff] at read
        obtain ⟨⟨right, rest'⟩, second, read⟩ := read
        cases read
        exact .and (.negation (ih first)) sign (ih second)
    | negation =>
      rw [readLevel] at read
      split at read
      · exact .test (ih read)
      · next inside sign =>
        simp only [Option.bind_eq_bind, Option.bind_eq_some_iff] at read
        obtain ⟨⟨inner, rest'⟩, inside, read⟩ := read
        cases read
        exact .not sign (ih inside)
    | test =>
      rw [readLevel] at read
      split at read <;> simp only [Option.bind_eq_bind, Option.bind_eq_some_iff] at read
      · next inside _ _ opening =>
        obtain ⟨⟨inner, after⟩, inside, rest', closing, read⟩ := read
        cases read
        exact .enclosed opening (ih inside) closing
      · next inside _ _ opening =>
        obtain ⟨⟨test, _⟩, tested, _, yields, ⟨passed, _⟩, readPassed, _, otherwise, ⟨other, _⟩,
          readOther, _, closing, ⟨bound, _⟩, readBound, read⟩ := read
        cases read
        exact .sumExceeds opening (ih tested) yields readPassed otherwise readOther closing readBound
      · next inside _ _ opening =>
        obtain ⟨⟨first, _⟩, readFirst, _, joins, ⟨second, _⟩, readSecond, _, where_, ⟨on, _⟩,
          readOn, _, filters, ⟨filter, _⟩, readFilter, _, closing, read⟩ := read
        cases read
        exact .existsJoin opening readFirst joins readSecond where_ (ih readOn) filters
          (ih readFilter) closing
      · obtain ⟨⟨left, _⟩, first, _, sign, ⟨right, _⟩, second, read⟩ := read
        cases read
        exact .equal first sign second

/-- The operators that join two conditions. -/
inductive Joint where
  | and
  | or

namespace Joint

def sign : Joint → List Token
  | and => Token.phrase "AND"
  | or => Token.phrase "OR"

def joined : Joint → Condition → Condition → Condition
  | and => Condition.and
  | or => Condition.or

end Joint

/-- What holds of everything without an operator at its top, and of what is joined to something
that it holds of, holds of all conditions at the front of the input. -/
theorem Reads.of_joints {motive : Condition → List Token → Prop} {level : Level}
    {input rest : List Token} {condition : Condition}
    (plain : ∀ condition rest, Reads .negation input condition rest → motive condition rest)
    (join : ∀ (joint : Joint) left middle after right rest, motive left middle →
      Token.skip joint.sign middle = some after → Reads .disjunction after right rest →
        motive (joint.joined left right) rest)
    (reads : Reads level input condition rest) : motive condition rest := by
  induction reads with
  | conjunction _ ih | negation _ ih => exact ih plain
  | or _ sign second ih _ => exact join .or _ _ _ _ _ (ih plain) sign second
  | and _ sign second ih _ => exact join .and _ _ _ _ _ (ih plain) sign (.conjunction second)
  | test read => exact plain _ _ (.test read)
  | not sign read => exact plain _ _ (.not sign read)
  | enclosed opening read closing => exact plain _ _ (.test (.enclosed opening read closing))
  | equal first sign second => exact plain _ _ (.test (.equal first sign second))
  | sumExceeds opening read yields readPassed otherwise readOther closing readBound =>
    exact plain _ _
      (.test (.sumExceeds opening read yields readPassed otherwise readOther closing readBound))
  | existsJoin opening readFirst joins readSecond where_ readOn filters readFilter closing =>
    exact plain _ _ (.test
      (.existsJoin opening readFirst joins readSecond where_ readOn filters readFilter closing))

/-- What comes next joins nothing to what came before. -/
def Ends (rest : List Token) : Prop := ∀ joint : Joint, Token.skip joint.sign rest = none

/-- Tokens that are read in one way as long as no operator joins something to them: as a whole
and as one condition. -/
def Single (tokens : List Token) (condition : Condition) : Prop :=
  ∀ rest other stop, Reads .negation (tokens ++ rest) other stop →
    other = condition ∧ stop = rest

namespace Single

variable {level : Level} {tokens tokens' follow stop : List Token}
  {condition condition' other : Condition}

/-- Tokens with nothing joined to them are all that is read. -/
theorem alone (single : Single tokens condition) (ends : Ends follow)
    (reads : Reads level (tokens ++ follow) other stop) :
    other = condition ∧ stop = follow := by
  refine reads.of_joints (motive := fun other stop => other = condition ∧ stop = follow)
    (single follow) ?_
  rintro joint _ _ after _ _ ⟨_, rfl⟩ sign _
  rw [ends joint] at sign
  cases sign

/-- Of two conditions that an operator joins, the first is read or both are. -/
theorem pair (left : Single tokens condition) (right : Single tokens' condition') (joint : Joint)
    (ends : Ends follow)
    (reads : Reads level (tokens ++ (joint.sign ++ (tokens' ++ follow))) other stop) :
    (other = condition ∧ stop = joint.sign ++ (tokens' ++ follow)) ∨
      (other = joint.joined condition condition' ∧ stop = follow) := by
  refine reads.of_joints (motive := fun other stop =>
    (other = condition ∧ stop = joint.sign ++ (tokens' ++ follow)) ∨
      (other = joint.joined condition condition' ∧ stop = follow))
    (fun other stop read => .inl (left _ other stop read)) ?_
  rintro joint' _ _ after _ _ (⟨rfl, rfl⟩ | ⟨_, rfl⟩) sign second
  · have same : joint' = joint := by
      cases joint <;> cases joint' <;> first | rfl | cases sign
    subst same
    rw [Token.skip_append] at sign
    cases sign
    obtain ⟨rfl, rfl⟩ := right.alone ends second
    exact .inr ⟨rfl, rfl⟩
  · rw [ends joint'] at sign
    cases sign

end Single

end Condition

end TagQuery
