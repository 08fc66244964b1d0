/-! The runs that lists begin with. -/

namespace TagQuery

/-- A list that begins with another item begins with an empty run. -/
theorem span_of_stop {α : Type} {holds : α → Bool} {items : List α}
    (stop : items.head?.any holds = false) :
    items.takeWhile holds = [] ∧ items.dropWhile holds = items := by
  cases items with
  | nil => exact ⟨rfl, rfl⟩
  | cons first rest =>
    have ends : holds first = false := by simpa using stop
    simp [ends]

/-- A run ends where the next item no longer belongs to it. -/
theorem takeWhile_append_of_stop {α : Type} {holds : α → Bool} {left right : List α}
    (run : ∀ item ∈ left, holds item) (stop : right.head?.any holds = false) :
    (left ++ right).takeWhile holds = left := by
  rw [List.takeWhile_append_of_pos run, (span_of_stop stop).1, List.append_nil]

end TagQuery
