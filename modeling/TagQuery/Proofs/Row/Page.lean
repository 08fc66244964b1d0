import TagQuery.Proofs.Row.Envelope

/-! Pages whose rows carry one total. -/

namespace TagQuery.Page

variable {α : Type} [RowShape α] {total : UInt64}

section Keyed

variable {κ : Type} {keys : List κ} {answer : κ → Row} {item : κ → α}

/-- Rows that agree on a total make a page of it and of their items, whatever they answer. -/
theorem ofRows_map_of_ok (counted : ∀ key ∈ keys, (answer key).total = .ok total)
    (shaped : ∀ key ∈ keys,
      RowShape.ofRow ((answer key).remove totalColumn) = .ok (item key)) :
    ofRows (keys.map answer) = .ok ⟨keys.map item, if keys = [] then 0 else total⟩ := by
  apply ofRows_ok_iff.mpr
  by_cases none : keys = []
  · subst none
    exact ⟨.nil, fun _ => rfl⟩
  · rw [if_neg none]
    refine ⟨?_, fun empty => absurd (List.map_eq_nil_iff.mp empty) none⟩
    apply List.forall₂_map_left_iff.mpr
    apply List.forall₂_map_right_iff.mpr
    apply List.forall₂_same.mpr
    intro key member
    exact ⟨_, Row.counts_iff.mpr ⟨counted key member, rfl⟩, shaped key member⟩

end Keyed

/-- Rows that agree on a total make a page of it, whatever their number. -/
theorem ofRows_of_ok {rows : List Row} {item : Row → α}
    (counted : ∀ row ∈ rows, row.total = .ok total)
    (shaped : ∀ row ∈ rows, RowShape.ofRow (row.remove totalColumn) = .ok (item row)) :
    ofRows rows = .ok ⟨rows.map item, if rows = [] then 0 else total⟩ := by
  rw [← ofRows_map_of_ok counted shaped, List.map_id']

end TagQuery.Page
