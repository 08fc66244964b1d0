import TagQuery.Activity.Tally

/-! Counts as words: they are added as numbers are, until the range of words ends. -/

namespace TagQuery

theorem toNat_amount (count : Nat) : (amount count).toNat = min count (UInt64.size - 1) := by
  have fits : min count (UInt64.size - 1) < UInt64.size :=
    Nat.lt_of_le_of_lt (Nat.min_le_right _ _) (by decide)
  rw [amount, UInt64.toNat_ofNat', Nat.mod_eq_of_lt fits]

/-- A count that fits is reported as it is. -/
theorem toNat_amount_of_lt {count : Nat} (fits : count < UInt64.size) :
    (amount count).toNat = count := by
  rw [toNat_amount, Nat.min_eq_left (Nat.le_sub_one_of_lt fits)]

/-- Counts may be added before they become words or after. -/
theorem addSaturating_amount (count more : Nat) :
    addSaturating (amount count) (amount more) = amount (count + more) := by
  have ends : min (min count (UInt64.size - 1) + min more (UInt64.size - 1)) (UInt64.size - 1) =
      min (count + more) (UInt64.size - 1) := by omega
  rw [addSaturating, toNat_amount, toNat_amount, amount, amount, ends]

end TagQuery
