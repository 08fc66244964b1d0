import Mathlib.Data.List.Forall2

/-! Lists whose items are related one by one. -/

namespace TagQuery

variable {α β : Type} {relates : α → β → Prop} {left : List α} {right : List β}

theorem exists_of_mem_left (all : List.Forall₂ relates left right) {one : α} (member : one ∈ left) :
    ∃ other ∈ right, relates one other := by
  induction all with
  | nil => cases member
  | cons related _ ih =>
    rcases List.mem_cons.mp member with rfl | later
    · exact ⟨_, List.mem_cons_self, related⟩
    · obtain ⟨other, present, found⟩ := ih later
      exact ⟨other, List.mem_cons_of_mem _ present, found⟩

theorem exists_of_mem_right (all : List.Forall₂ relates left right) {other : β}
    (member : other ∈ right) : ∃ one ∈ left, relates one other :=
  exists_of_mem_left all.flip member

end TagQuery
