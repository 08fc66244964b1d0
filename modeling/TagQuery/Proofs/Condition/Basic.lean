import Mathlib.Algebra.Ring.Int.Defs
import TagQuery.Statement.Value

/-! Conditions on the rows of tables and on groups of rows, under three truth values: a
comparison with a null is neither true nor false. -/

namespace TagQuery

/-- True, false, or unknown. -/
abbrev Truth := Option Bool

namespace Truth

def not : Truth → Truth
  | some value => some !value
  | none => none

def and : Truth → Truth → Truth
  | some false, _ => some false
  | _, some false => some false
  | some true, some true => some true
  | _, _ => none

def or : Truth → Truth → Truth
  | some true, _ => some true
  | _, some true => some true
  | some false, some false => some false
  | _, _ => none

@[simp] theorem and_some (left right : Bool) : and (some left) (some right) = some (left && right) := by
  cases left <;> cases right <;> rfl

@[simp] theorem or_some (left right : Bool) : or (some left) (some right) = some (left || right) := by
  cases left <;> cases right <;> rfl

/-- A conjunction is true only when both sides are. -/
@[simp] theorem and_eq_true_iff (left right : Truth) :
    and left right = some true ↔ left = some true ∧ right = some true := by
  rcases left with _ | _ | _ <;> rcases right with _ | _ | _ <;> simp [and]

/-- The truth is known, and it is that of a proposition. -/
def Decides (truth : Truth) (proposition : Prop) : Prop :=
  ∃ holds : Bool, truth = some holds ∧ (holds = true ↔ proposition)

theorem decides_some {holds : Bool} {proposition : Prop} (agree : holds = true ↔ proposition) :
    Decides (some holds) proposition := ⟨holds, rfl, agree⟩

namespace Decides

variable {left right : Truth} {first second : Prop}

theorem congr (decided : left.Decides first) (same : first ↔ second) : left.Decides second := by
  obtain ⟨holds, known, agree⟩ := decided
  exact ⟨holds, known, agree.trans same⟩

theorem eq_true_iff (decided : left.Decides first) : left = some true ↔ first := by
  obtain ⟨holds, rfl, agree⟩ := decided
  rw [← agree, Option.some_inj]

theorem not (decided : left.Decides first) : left.not.Decides (¬ first) := by
  obtain ⟨holds, rfl, agree⟩ := decided
  exact decides_some (by simp [← agree])

theorem and (decidedLeft : left.Decides first) (decidedRight : right.Decides second) :
    (left.and right).Decides (first ∧ second) := by
  obtain ⟨_, rfl, agree⟩ := decidedLeft
  obtain ⟨_, rfl, agree'⟩ := decidedRight
  rw [and_some]
  exact decides_some (by simp [← agree, ← agree'])

theorem or (decidedLeft : left.Decides first) (decidedRight : right.Decides second) :
    (left.or right).Decides (first ∨ second) := by
  obtain ⟨_, rfl, agree⟩ := decidedLeft
  obtain ⟨_, rfl, agree'⟩ := decidedRight
  rw [or_some]
  exact decides_some (by simp [← agree, ← agree'])

end Decides

end Truth

/-- Equality of values, unknown when either is null. -/
def Value.equals : Value → Value → Truth
  | .null, _ => none
  | _, .null => none
  | left, right => some (decide (left = right))

theorem Value.equals_eq_true_iff (left right : Value) :
    left.equals right = some true ↔ left = right ∧ left ≠ .null := by
  cases left <;> cases right <;> simp [equals]

theorem Value.ofTagId_inj {first second : TagId} : ofTagId first = ofTagId second ↔ first = second := by
  cases first
  cases second
  simp [ofTagId]

/-- A row by column name; a column it does not have is null. -/
abbrev Record := String → Value

/-- The rows of every table by the table's name. -/
structure Database where
  table : String → List Record

/-- The rows in sight, by the short names of their tables. -/
abbrev Scope := String → Record

namespace Scope

def empty : Scope := fun _ _ => .null

/-- Bring one more row into sight. -/
def bind (scope : Scope) (short : String) (row : Record) : Scope :=
  fun name => if name = short then row else scope name

@[simp] theorem bind_self (scope : Scope) (short : String) (row : Record) :
    scope.bind short row short = row := by
  simp [bind]

end Scope

inductive Operand where
  | number (value : Int64)
  | column (short name : String)
  | parameter (name : String)
deriving DecidableEq, Repr

/-- A parameter that is not given has no value. -/
def Operand.value (params : Params) (scope : Scope) : Operand → Value
  | .number value => .integer value
  | .column short name => scope short name
  | .parameter name => (params.get? name).getD .null

/-- A table under a short name. -/
structure Source where
  table : String
  short : String
deriving DecidableEq, Repr

inductive Condition where
  | equal (left right : Operand)
  /-- The sum over a group of one number for the rows that pass a test and another for the
  rest is above a bound. -/
  | sumExceeds (test : Condition) (passed other bound : Int64)
  /-- Some pair of rows of two joined tables passes a filter. -/
  | existsJoin (first second : Source) (on filter : Condition)
  | and (left right : Condition)
  | or (left right : Condition)
  | not (inner : Condition)
deriving DecidableEq, Repr

namespace Condition

/-- The truth of a condition on the rows in sight and on the group they stand for. Within
a sum or a joined pair a row stands for no group, and a sum over no rows is null. -/
def truth (database : Database) (params : Params) (group : List Scope) (scope : Scope) :
    Condition → Truth
  | .equal left right => (left.value params scope).equals (right.value params scope)
  | .sumExceeds test passed other bound =>
    if group = [] then none
    else some (decide (bound.toInt < (group.map fun row =>
      if test.truth database params [] row = some true then passed.toInt else other.toInt).sum))
  | .existsJoin first second on filter =>
    some ((database.table first.table).any fun one => (database.table second.table).any fun two =>
      let pair := (scope.bind first.short one).bind second.short two
      decide (on.truth database params [] pair = some true) &&
        decide (filter.truth database params [] pair = some true))
  | .and left right =>
    (left.truth database params group scope).and (right.truth database params group scope)
  | .or left right =>
    (left.truth database params group scope).or (right.truth database params group scope)
  | .not inner => (inner.truth database params group scope).not

end Condition

/-- A row with each row of a table that the condition admits, or with a row of nulls when
it admits none. -/
def Database.leftJoin (database : Database) (params : Params) (scope : Scope) (source : Source)
    (on : Condition) : List Scope :=
  match (database.table source.table).filter fun row =>
    decide (on.truth database params [] (scope.bind source.short row) = some true) with
  | [] => [scope.bind source.short fun _ => .null]
  | rows => rows.map (scope.bind source.short)

section LeftJoin

variable (database : Database) (params : Params) (scope : Scope) (source : Source) (on : Condition)

theorem Database.leftJoin_ne_nil : database.leftJoin params scope source on ≠ [] := by
  unfold leftJoin
  split
  · simp
  · next joined => simpa using joined

/-- A joined scope has a row that the condition admits, or nulls when there is none. -/
theorem Database.mem_leftJoin_iff (joined : Scope) :
    joined ∈ database.leftJoin params scope source on ↔
      (∃ row ∈ database.table source.table,
        on.truth database params [] (scope.bind source.short row) = some true ∧
          joined = scope.bind source.short row) ∨
      ((∀ row ∈ database.table source.table,
        on.truth database params [] (scope.bind source.short row) ≠ some true) ∧
          joined = scope.bind source.short fun _ => .null) := by
  unfold leftJoin
  split
  · next none =>
    rw [List.filter_eq_nil_iff] at none
    simp only [decide_eq_true_eq] at none
    simp only [List.mem_singleton]
    constructor
    · exact fun same => .inr ⟨none, same⟩
    · rintro (⟨row, member, admitted, _⟩ | ⟨_, same⟩)
      · exact absurd admitted (none row member)
      · exact same
  · next some =>
    obtain ⟨first, member⟩ := List.exists_mem_of_ne_nil _ some
    simp only [List.mem_filter, decide_eq_true_eq] at member
    simp only [List.mem_map, List.mem_filter, decide_eq_true_eq]
    constructor
    · rintro ⟨row, ⟨present, admitted⟩, rfl⟩
      exact .inl ⟨row, present, admitted, rfl⟩
    · rintro (⟨row, present, admitted, rfl⟩ | ⟨never, _⟩)
      · exact ⟨row, ⟨present, admitted⟩, rfl⟩
      · exact absurd member.2 (never first member.1)

end LeftJoin

/-- One for each row that passes and nothing for the rest sums up to their number. -/
theorem sum_indicator {α : Type} (passes : α → Prop) [DecidablePred passes] (rows : List α) :
    (rows.map fun row => if passes row then (1 : Int64).toInt else (0 : Int64).toInt).sum =
      (rows.countP (decide <| passes ·) : Int) := by
  induction rows with
  | nil => rfl
  | cons first rest ih =>
    rw [List.map_cons, List.sum_cons, ih, List.countP_cons]
    by_cases passed : passes first <;> simp [passed, Int.add_comm]

namespace Condition

variable {database : Database} {params : Params} {group : List Scope} {scope : Scope}

/-- The count of the rows that pass is above nothing exactly when there are some. -/
theorem decides_sumExceeds (filled : group ≠ []) (test : Condition) :
    ((sumExceeds test 1 0 0).truth database params group scope).Decides
      (∃ row ∈ group, test.truth database params [] row = some true) := by
  have bound : (0 : Int64).toInt = 0 := rfl
  rw [truth, if_neg filled, sum_indicator]
  refine Truth.decides_some ?_
  rw [decide_eq_true_eq, bound, Int.natCast_pos, List.countP_pos_iff]
  simp only [decide_eq_true_eq]

theorem decides_existsJoin (first second : Source) (on filter : Condition) :
    ((existsJoin first second on filter).truth database params group scope).Decides
      (∃ one ∈ database.table first.table, ∃ two ∈ database.table second.table,
        on.truth database params [] ((scope.bind first.short one).bind second.short two) =
          some true ∧
        filter.truth database params [] ((scope.bind first.short one).bind second.short two) =
          some true) :=
  Truth.decides_some (by simp)

end Condition

end TagQuery
