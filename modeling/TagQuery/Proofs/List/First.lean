import Mathlib.Data.List.Induction
import TagQuery.Proofs.List.Distinct

/-! The first item of some kind, and items in the order in which a walk first comes to them. -/

namespace TagQuery

variable {α : Type}

/-- An item of some kind with none of that kind before it. -/
def FirstOf (kind : α → Prop) (items : List α) (item : α) : Prop :=
  ∃ before after, items = before ++ item :: after ∧ kind item ∧ ∀ earlier ∈ before, ¬ kind earlier

theorem FirstOf.mem {kind : α → Prop} {items : List α} {item : α}
    (first : FirstOf kind items item) : item ∈ items := by
  obtain ⟨before, after, rfl, _⟩ := first
  simp

theorem FirstOf.cons {kind : α → Prop} {head item : α} {rest : List α} (other : ¬ kind head)
    (first : FirstOf kind rest item) : FirstOf kind (head :: rest) item := by
  obtain ⟨before, after, rfl, holds, none⟩ := first
  exact ⟨head :: before, after, rfl, holds, List.forall_mem_cons.mpr ⟨other, none⟩⟩

theorem exists_firstOf {kind : α → Prop} {items : List α} (some : ∃ item ∈ items, kind item) :
    ∃ item, FirstOf kind items item := by
  induction items with
  | nil =>
    obtain ⟨_, member, _⟩ := some
    cases member
  | cons head rest ih =>
    by_cases here : kind head
    · exact ⟨head, [], rest, rfl, here, by simp⟩
    · obtain ⟨item, member, holds⟩ := some
      have later : item ∈ rest := by
        rcases List.mem_cons.mp member with rfl | later
        · exact absurd holds here
        · exact later
      obtain ⟨item, first⟩ := ih ⟨item, later, holds⟩
      exact ⟨item, first.cons here⟩

/-- Leaving out items of other kinds does not change which is the first of a kind. -/
theorem FirstOf.of_filter {kind : α → Prop} {keep : α → Bool} {items : List α} {item : α}
    (first : FirstOf kind (items.filter keep) item)
    (kept : ∀ other ∈ items, kind other → keep other) : FirstOf kind items item := by
  obtain ⟨before, after, split, holds, none⟩ := first
  obtain ⟨left, right, rfl, shown, rest⟩ := List.filter_eq_append_iff.mp split
  obtain ⟨skipped, after, rfl, dropped, _, _⟩ := List.filter_eq_cons_iff.mp rest
  refine ⟨left ++ skipped, after, (List.append_assoc ..).symm, holds, fun earlier member same => ?_⟩
  rcases List.mem_append.mp member with inside | inside
  · have visible := List.mem_filter.mpr ⟨inside, kept earlier (List.mem_append_left _ inside) same⟩
    rw [shown] at visible
    exact none earlier visible same
  · have present : earlier ∈ left ++ (skipped ++ item :: after) :=
      List.mem_append_right _ (List.mem_append_left _ inside)
    exact dropped earlier inside (kept earlier present same)

/-- What is kept for its part is the first with that part. -/
theorem firstOf_of_mem_eraseDupsBy {β : Type} [DecidableEq β] (part : α → β) {items : List α}
    {item : α}
    (member : item ∈ items.eraseDupsBy fun later earlier => part later == part earlier) :
    FirstOf (fun other => part other = part item) items item := by
  induction items using filterRec with
  | nil => cases member
  | cons head rest ih =>
    rw [List.eraseDupsBy_cons] at member
    rcases List.mem_cons.mp member with rfl | later
    · exact ⟨[], rest, rfl, rfl, by simp⟩
    · have first := ih _ later
      have apart : part item ≠ part head := by
        simpa using (List.mem_filter.mp first.mem).2
      refine .cons (fun same => apart same.symm) (first.of_filter fun other _ same => ?_)
      simpa [same] using apart

/-- What a walk visits, and from it each item where it is visited for the first time. -/
inductive FirstVisits : List α → List α → Prop
  | start : FirstVisits [] []
  | again {visited firsts : List α} {item : α} :
    FirstVisits visited firsts → item ∈ visited → FirstVisits (visited ++ [item]) firsts
  | new {visited firsts : List α} {item : α} :
    FirstVisits visited firsts → item ∉ visited → FirstVisits (visited ++ [item]) (firsts ++ [item])

theorem firstVisits_eraseDups [DecidableEq α] (visited : List α) :
    FirstVisits visited visited.eraseDups := by
  induction visited using List.reverseRecOn with
  | nil => exact .start
  | append_singleton visited item ih =>
    rw [eraseDups_append_singleton]
    split
    · next known => exact .again ih known
    · next new => exact .new ih new

end TagQuery
