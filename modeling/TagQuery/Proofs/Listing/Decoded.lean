import TagQuery.Proofs.Condition.Unambiguous
import TagQuery.Proofs.Listing.Compiled

/-! The predicate text of a filter says which filter it is. -/

namespace TagQuery

/-- The key of a bare tag without an identifier. -/
def Leaf.unresolvedKey? (resolved : Resolution) : Leaf → Option String
  | .always => none
  | .tag named =>
    if named.value = none ∧ resolved.get? named.signature = none then some named.key else none

/-- The test that a leaf stands for, when keys without an identifier are told apart by ranks.
A valued tag with the key `sort` tests nothing. -/
def Leaf.test (resolved : Resolution) (rank : String → Nat) : Leaf → Atom
  | .always => .always
  | .tag named =>
    if named.key = sortKey ∧ named.value.isSome then .always
    else match resolved.get? named.signature with
      | some id => .carries id
      | none => .carriesFamily (rank named.key)

namespace Filter

/-- How many other keys without an identifier are visited before a key is, from left to right. -/
def rank (filter : Filter) (resolved : Resolution) (key : String) : Nat :=
  ((filter.leaves.filterMap (Leaf.unresolvedKey? resolved)).takeWhile (· != key)).eraseDups.length

/-- The tests of a filter in the places of its leaves. -/
def tests (filter : Filter) (resolved : Resolution) : Predicate :=
  Formula.map (Leaf.test resolved (filter.rank resolved)) filter

variable {filter : Filter} {resolved : Resolution} {compiled : CompiledFilter}

theorem families_eq_eraseDups (filter : Filter) (resolved : Resolution) :
    filter.families resolved =
      (filter.leaves.filterMap (Leaf.unresolvedKey? resolved)).eraseDups := by
  rw [families, subjects, ← List.filterMap_eq_map, List.filterMap_filter, List.filterMap_filterMap]
  refine congrArg (fun key? => (filter.leaves.filterMap key?).eraseDups) (funext fun leaf => ?_)
  cases leaf with
  | always => rfl
  | tag named =>
    cases bare : named.value with
    | none =>
      simp [Leaf.subject?, Leaf.directive?, Leaf.unresolvedKey?, isFamily, bare]
    | some value =>
      by_cases directs : named.key = sortKey
      · simp [Leaf.subject?, Leaf.directive?, Leaf.unresolvedKey?, bare, directs]
      · simp [Leaf.subject?, Leaf.directive?, Leaf.unresolvedKey?, isFamily, bare, directs]

private theorem atom_eq_test {leaf : Leaf} {atom : Atom} (member : leaf ∈ filter.leaves)
    (made : leaf.atom resolved (filter.families resolved) = .ok atom) :
    atom = leaf.test resolved (filter.rank resolved) := by
  cases leaf with
  | always =>
    cases made
    rfl
  | tag named =>
    by_cases directs : named.key = sortKey ∧ named.value.isSome
    · have silent : (Leaf.tag named).subject? = none := by
        simp [Leaf.subject?, Leaf.directive?, directs]
      rw [Leaf.atom, silent] at made
      cases made
      simp [Leaf.test, directs]
    · have subject : (Leaf.tag named).subject? = some named := by
        by_cases key : named.key = sortKey
        · simp_all [Leaf.subject?, Leaf.directive?]
        · simp [Leaf.subject?, Leaf.directive?, key]
      rw [Leaf.atom, subject] at made
      rw [Leaf.test, if_neg directs]
      dsimp only at made
      cases found : resolved.get? named.signature with
      | some id =>
        rw [found] at made
        cases made
        rfl
      | none =>
        rw [found] at made
        dsimp only at made
        split at made
        · next bare =>
          cases made
          have key : named.key ∈ filter.leaves.filterMap (Leaf.unresolvedKey? resolved) := by
            refine List.mem_filterMap.mpr ⟨.tag named, member, ?_⟩
            rw [Leaf.unresolvedKey?, if_pos ⟨Option.isNone_iff_eq_none.mp bare, found⟩]
          rw [families_eq_eraseDups, idxOf_eraseDups key]
          rfl
        · cases made

/-- A compiled filter has its tests as its predicate. -/
theorem predicate_eq_tests (folded : filter.compileResolved resolved = .ok compiled) :
    compiled.predicate = filter.tests resolved := by
  have matched := Formula.matched_of_traverse (of_compileResolved_ok folded).1
  refine matched.eq_map ?_
  rintro leaf atom ⟨member, made⟩
  exact atom_eq_test member made

end Filter

theorem Atom.condition_injective (schema : Schema) : Function.Injective (Atom.condition schema) := by
  intro first second same
  cases first with
  | always => cases second <;> first | rfl | cases same
  | carries id =>
    cases second with
    | carries id' =>
      cases id
      cases id'
      cases same
      rfl
    | always | carriesFamily => cases same
  | carriesFamily index =>
    cases second with
    | carriesFamily index' =>
      have parameters : familyParameter index = familyParameter index' := by
        simpa [condition] using same
      rw [familyParameter_injective parameters]
    | always | carries => cases same

theorem Predicate.condition_injective (schema : Schema) :
    Function.Injective (Predicate.condition schema) := by
  intro first
  induction first with
  | leaf atom =>
    intro second same
    cases second with
    | leaf atom' => rw [Atom.condition_injective schema same]
    | and | or | not => cases atom <;> cases same
  | and left right leftInjective rightInjective =>
    intro second same
    cases second with
    | and left' right' =>
      obtain ⟨leftSame, rightSame⟩ := Condition.and.inj same
      rw [leftInjective leftSame, rightInjective rightSame]
    | leaf atom => cases atom <;> cases same
    | or | not => cases same
  | or left right leftInjective rightInjective =>
    intro second same
    cases second with
    | or left' right' =>
      obtain ⟨leftSame, rightSame⟩ := Condition.or.inj same
      rw [leftInjective leftSame, rightInjective rightSame]
    | leaf atom => cases atom <;> cases same
    | and | not => cases same
  | not inner injective =>
    intro second same
    cases second with
    | not inner' => rw [injective (Condition.not.inj same)]
    | leaf atom => cases atom <;> cases same
    | and | or => cases same

/-- Under the precedence of the operators, the predicate text of a compiled filter is one condition:
the shape of the filter with the tests of its leaves. So filters have one text exactly when they
have one tree of tests. -/
theorem Filter.text_decodes {schema : Schema} (checked : schema.check = .ok ()) {filter : Filter}
    {resolved : Resolution} {compiled : CompiledFilter}
    (folded : filter.compileResolved resolved = .ok compiled) :
    (∀ condition, Condition.IsReading (Predicate.text schema compiled.predicate) condition ↔
      condition = Predicate.condition schema (filter.tests resolved)) ∧
    ∀ (other : Filter) (resolved' : Resolution) (compiled' : CompiledFilter),
      other.compileResolved resolved' = .ok compiled' →
        (Predicate.text schema compiled.predicate = Predicate.text schema compiled'.predicate ↔
          filter.tests resolved = other.tests resolved') := by
  have named := Schema.named_of_check checked
  rw [predicate_eq_tests folded]
  refine ⟨Predicate.isReading_iff named _, ?_⟩
  intro other resolved' compiled' folded'
  rw [predicate_eq_tests folded']
  constructor
  · intro same
    have read := Predicate.isReading_iff named (filter.tests resolved)
    rw [same] at read
    have decoded := (Predicate.isReading_iff named _ _).mp ((read _).mpr rfl)
    exact Predicate.condition_injective schema decoded
  · intro same
    rw [same]

namespace Filter

/-- Tables and columns that are called like operators and keywords. -/
def spelled : Schema where
  entity := { table := "OR", idColumn := "NOT" }
  tags := { table := "NOT" }
  association := { table := "AND", entityColumn := "ON", tagColumn := "WHERE" }

def visiting (first second third : String) : Filter :=
  .and (.not (Filter.bare first)) (.or (Filter.bare second)
    (.and (Filter.bare third) (Filter.bare first)))

/-- A resolution of one bare tag. -/
def knowing (key : String) : Resolution := ⟨[((Tag.bare key).signature, ⟨-7⟩)]⟩

def visited : Predicate :=
  .and (.not (.leaf (.carriesFamily 0)))
    (.or (.leaf (.carries ⟨-7⟩)) (.and (.leaf (.carriesFamily 1)) (.leaf (.carriesFamily 0))))

theorem text_decodes_spelled :
    ∃ compiled compiled', (visiting "x" "y" "z").compileResolved (knowing "y") = .ok compiled ∧
      (visiting "p" "q" "r").compileResolved (knowing "q") = .ok compiled' ∧
      (∀ condition, Condition.IsReading (Predicate.text spelled compiled.predicate) condition ↔
        condition = Predicate.condition spelled visited) ∧
      Predicate.text spelled compiled.predicate = Predicate.text spelled compiled'.predicate := by
  have checked : spelled.check = .ok () := by decide +kernel
  have tests : (visiting "x" "y" "z").tests (knowing "y") = visited := by decide +kernel
  have tests' : (visiting "p" "q" "r").tests (knowing "q") = visited := by decide +kernel
  obtain ⟨compiled, folded⟩ : ∃ compiled,
    (visiting "x" "y" "z").compileResolved (knowing "y") = .ok compiled := ⟨_, rfl⟩
  obtain ⟨compiled', folded'⟩ : ∃ compiled',
    (visiting "p" "q" "r").compileResolved (knowing "q") = .ok compiled' := ⟨_, rfl⟩
  obtain ⟨reading, same⟩ := text_decodes checked folded
  rw [tests] at reading
  exact ⟨compiled, compiled', folded, folded', reading,
    (same _ _ _ folded').mpr (tests.trans tests'.symm)⟩

end Filter

end TagQuery
