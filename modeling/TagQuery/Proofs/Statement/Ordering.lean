import TagQuery.Proofs.Condition.Reader
import TagQuery.Statement.Basic

/-! The orders in which a statement may answer its rows. -/

namespace TagQuery

/-- The order a store has for all values, where whole numbers are in their usual order. -/
structure ValueOrder where
  compare : Value → Value → Ordering
  trans : Std.TransCmp compare
  compare_integer : ∀ first second : Int64,
    compare (.integer first) (.integer second) = Ord.compare first.toInt second.toInt

/-- A comparison the way round that a direction asks for. -/
def Direction.orient {α : Type} (direction : Direction) (compare : α → α → Ordering) :
    α → α → Ordering :=
  match direction with
  | .ascending => compare
  | .descending => fun left right => compare right left

/-- Where nulls and other values stand, whatever the direction. -/
def NullsPlace.rank (place : NullsPlace) (value : Value) : Nat :=
  match place, decide (value = .null) with
  | .first, true | .last, false => 0
  | .first, false | .last, true => 1

namespace OrderItem

/-- The order of a store the way round that an item asks for. -/
def oriented (order : ValueOrder) (item : OrderItem) : Value → Value → Ordering :=
  (item.direction.getD .ascending).orient order.compare

/-- Compare two values. Unless the item says where nulls stand, the store's order does. -/
def compareValues (order : ValueOrder) (item : OrderItem) : Value → Value → Ordering :=
  match item.nulls with
  | none => item.oriented order
  | some place => compareLex (compareOn place.rank) (item.oriented order)

/-- Compare the rows in sight by one item. Random order does not tell them apart. -/
def compare (order : ValueOrder) (item : OrderItem) (left right : Scope) : Ordering :=
  match item.key with
  | .random => .eq
  | .column expression =>
    match Operand.ofWord? expression.toList with
    | none => .eq
    | some operand =>
      item.compareValues order (operand.value .empty left) (operand.value .empty right)

end OrderItem

/-- Later items decide where all earlier ones leave a tie. -/
def compareBy (order : ValueOrder) : List OrderItem → Scope → Scope → Ordering
  | [] => fun _ _ => .eq
  | item :: rest => compareLex (item.compare order) (compareBy order rest)

def Statement.order : Statement → List OrderItem
  | .select statement => statement.order
  | .insert _ | .delete _ => []

/-- Compare two rows of a table by the order of a statement. -/
def Statement.compareRows (order : ValueOrder) (statement : Statement) (short : String)
    (first second : Record) : Ordering :=
  compareBy order statement.order (Scope.empty.bind short first) (Scope.empty.bind short second)

/-- A list of the rows of a table that a statement may answer with: no row stands before one
that the order puts first. -/
def Statement.Admits (order : ValueOrder) (statement : Statement) (short : String)
    (rows listed : List Record) : Prop :=
  listed.Perm rows ∧ listed.Pairwise fun earlier later =>
    (statement.compareRows order short earlier later).isLE

section Transitive

variable (order : ValueOrder)

instance : Std.TransCmp order.compare := order.trans

instance {α : Type} (compare : α → α → Ordering) [Std.TransCmp compare] (direction : Direction) :
    Std.TransCmp (direction.orient compare) := by
  cases direction with
  | ascending => exact inferInstanceAs (Std.TransCmp compare)
  | descending => exact inferInstanceAs (Std.TransCmp fun left right => compare right left)

instance (item : OrderItem) : Std.TransCmp (item.oriented order) :=
  inferInstanceAs (Std.TransCmp (Direction.orient _ _))

instance (item : OrderItem) : Std.TransCmp (item.compareValues order) := by
  unfold OrderItem.compareValues
  split <;> infer_instance

private theorem transCmp_pulled {α β : Type} (compare : β → β → Ordering) [Std.TransCmp compare]
    (read : α → β) : Std.TransCmp fun left right => compare (read left) (read right) where
  eq_swap := Std.OrientedCmp.eq_swap
  isLE_trans := Std.TransCmp.isLE_trans

private theorem transCmp_tie {α : Type} : Std.TransCmp fun _ _ : α => Ordering.eq where
  eq_swap := rfl
  isLE_trans := fun _ _ => rfl

instance (item : OrderItem) : Std.TransCmp (item.compare order) := by
  unfold OrderItem.compare
  cases item.key with
  | random => exact transCmp_tie
  | column expression =>
    dsimp only
    cases Operand.ofWord? expression.toList with
    | none => exact transCmp_tie
    | some operand => exact transCmp_pulled (item.compareValues order) (operand.value .empty)

instance (items : List OrderItem) : Std.TransCmp (compareBy order items) := by
  induction items with
  | nil => exact transCmp_tie
  | cons item rest ih => exact inferInstanceAs (Std.TransCmp (compareLex _ _))

end Transitive

namespace Statement

variable (order : ValueOrder) (statement : Statement) (short : String)

instance : Std.TransCmp (statement.compareRows order short) :=
  transCmp_pulled (compareBy order statement.order) (Scope.empty.bind short)

/-- Rows without ties are answered in one order only. -/
theorem admits_iff_of_apart {rows : List Record}
    (apart : ∀ first ∈ rows, ∀ second ∈ rows,
      statement.compareRows order short first second = .eq → first = second) :
    ∃ listed, ∀ other, statement.Admits order short rows other ↔ other = listed := by
  let before (first second : Record) : Bool := (statement.compareRows order short first second).isLE
  have trans : ∀ first second third, before first second → before second third →
      before first third := fun _ _ _ => Std.TransCmp.isLE_trans
  have total : ∀ first second, before first second || before second first := by
    intro first second
    have swap : statement.compareRows order short first second =
        (statement.compareRows order short second first).swap := Std.OrientedCmp.eq_swap
    dsimp only [before]
    rw [swap]
    cases statement.compareRows order short second first <;> rfl
  have sorted := List.pairwise_mergeSort trans total rows
  refine ⟨rows.mergeSort before, fun other => ?_⟩
  constructor
  · rintro ⟨same, ordered⟩
    refine List.Perm.eq_of_pairwise ?_ ordered sorted (same.trans (List.mergeSort_perm ..).symm)
    intro first second memberFirst memberSecond notAfter notBefore
    refine apart first (same.mem_iff.mp memberFirst) second (List.mem_mergeSort.mp memberSecond) ?_
    exact Std.OrientedCmp.isLE_antisymm notAfter notBefore
  · rintro rfl
    exact ⟨List.mergeSort_perm .., sorted⟩

end Statement

namespace Value

/-- Nulls before numbers before texts. What is no number is kept as a null. -/
def rank : Value → Nat
  | .null => 0
  | .integer _ => 1
  | .real number => if number.meaning = .nan then 0 else 1
  | .text _ => 2

/-- The binary places that real numbers have after the point, at the most. -/
def places : Nat := 1074

private theorem shift_pos (size : Nat) : 0 < Nat.pow 2 size := Nat.pow_pos (by decide)

/-- A number without its point. The infinite ones are beyond all others. -/
def magnitude : Value → Int
  | .integer value => value.toInt * (Nat.pow 2 places : Nat)
  | .real number =>
    match number.meaning with
    | .nan => 0
    | .infinite negative => signed negative (Nat.pow 2 (places + 1024))
    | .finite negative significand exponent =>
      signed negative (significand * Nat.pow 2 (exponent + places).toNat)
  | .null | .text _ => 0
where
  signed (negative : Bool) (size : Nat) : Int := if negative then -size else size

def content : Value → String
  | .text content => content
  | .null | .integer _ | .real _ => ""

theorem compare_magnitude (first second : Int64) :
    Ord.compare (magnitude (.integer first)) (magnitude (.integer second)) =
      Ord.compare first.toInt second.toInt := by
  have scaled {less more : Int} (below : less < more) :
      less * (Nat.pow 2 places : Nat) < more * (Nat.pow 2 places : Nat) :=
    Int.mul_lt_mul_of_pos_right below (Int.natCast_pos.mpr (shift_pos places))
  rw [magnitude, magnitude]
  rcases Int.lt_trichotomy first.toInt second.toInt with less | same | more
  · rw [Int.compare_eq_lt.mpr less, Int.compare_eq_lt.mpr (scaled less)]
  · rw [same, Int.compare_eq_eq.mpr rfl, Int.compare_eq_eq.mpr rfl]
  · rw [Int.compare_eq_gt.mpr more, Int.compare_eq_gt.mpr (scaled more)]

end Value

/-- Values by their kinds, numbers by their size and texts by their characters. -/
def ValueOrder.byKind : ValueOrder where
  compare := compareLex (compareOn Value.rank)
    (compareLex (compareOn Value.magnitude) (compareOn Value.content))
  trans := inferInstance
  compare_integer := by
    intro first second
    rw [← Value.compare_magnitude, compareLex, compareLex, compareOn, compareOn, compareOn]
    exact Ordering.then_eq

end TagQuery
