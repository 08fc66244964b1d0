import Mathlib.Data.List.Forall2

/-! Results that may be faults: what a success of several of them says of each. -/

namespace TagQuery.Outcome

variable {ε ε' α β γ : Type}

/-- A sequence that succeeded succeeded in both parts. -/
theorem of_bind_ok {first : Except ε α} {next : α → Except ε β} {answer : β}
    (passed : first >>= next = .ok answer) : ∃ value, first = .ok value ∧ next value = .ok answer := by
  cases first with
  | error fault => cases passed
  | ok value => exact ⟨value, rfl, passed⟩

/-- A sequence that failed failed in its first part, or else in what follows that. -/
theorem of_bind_error {first : Except ε α} {next : α → Except ε β} {fault : ε}
    (failed : first >>= next = .error fault) :
    first = .error fault ∨ ∃ value, first = .ok value ∧ next value = .error fault := by
  cases first with
  | error other =>
    cases failed
    exact .inl rfl
  | ok value => exact .inr ⟨value, rfl, failed⟩

/-- Checks in a row pass exactly when each of them does. -/
theorem forM_ok_iff {check : α → Except ε Unit} {items : List α} :
    items.forM check = .ok () ↔ ∀ item ∈ items, check item = .ok () := by
  induction items with
  | nil => exact ⟨fun _ _ member => by simp at member, fun _ => rfl⟩
  | cons first rest ih =>
    rw [List.forall_mem_cons, ← ih]
    change (check first >>= fun _ => rest.forM check) = .ok () ↔ _
    constructor
    · intro passed
      obtain ⟨_, head, tail⟩ := of_bind_ok passed
      exact ⟨head, tail⟩
    · rintro ⟨head, tail⟩
      rw [head]
      exact tail

/-- Checks in a row stop at the first that fails. -/
theorem forM_error {check : α → Except ε Unit} {before : List α} {item : α} {fault : ε}
    (passed : ∀ earlier ∈ before, check earlier = .ok ()) (failed : check item = .error fault)
    (after : List α) : (before ++ item :: after).forM check = .error fault := by
  have run := forM_ok_iff.mpr passed
  rw [List.forM_eq_forM] at run ⊢
  rw [List.forM_append, run, List.forM_cons, failed]
  rfl

/-- Checks in a row that failed failed at the first that does not pass. -/
theorem forM_error_iff {check : α → Except ε Unit} {items : List α} {fault : ε} :
    items.forM check = .error fault ↔ ∃ before item after, items = before ++ item :: after ∧
      (∀ earlier ∈ before, check earlier = .ok ()) ∧ check item = .error fault := by
  constructor
  · intro failed
    induction items with
    | nil => cases failed
    | cons first rest ih =>
      rcases of_bind_error failed with head | ⟨_, head, tail⟩
      · exact ⟨[], first, rest, rfl, by simp, head⟩
      · obtain ⟨before, item, after, rfl, passed, failed⟩ := ih tail
        exact ⟨first :: before, item, after, rfl, List.forall_mem_cons.mpr ⟨head, passed⟩, failed⟩
  · intro failed
    obtain ⟨before, item, after, split, passed, failed⟩ := failed
    rw [split]
    exact forM_error passed failed after

theorem mapError_ok_iff {restate : ε → ε'} {result : Except ε α} {value : α} :
    result.mapError restate = .ok value ↔ result = .ok value := by
  cases result with
  | error fault => exact ⟨nofun, nofun⟩
  | ok answer =>
    constructor
    · intro same
      cases same
      rfl
    · intro same
      cases same
      rfl

theorem of_map_ok {change : α → β} {result : Except ε α} {answer : β}
    (mapped : result.map change = .ok answer) : ∃ value, result = .ok value ∧ change value = answer := by
  cases result with
  | error fault => cases mapped
  | ok value => exact ⟨value, rfl, Except.ok.inj mapped⟩

theorem map_error_iff {change : α → β} {result : Except ε α} {fault : ε} :
    result.map change = .error fault ↔ result = .error fault := by
  cases result with
  | error other =>
    constructor
    · intro same
      cases same
      rfl
    · intro same
      cases same
      rfl
  | ok value => exact ⟨nofun, nofun⟩

theorem map_injective {change : α → β} (injective : Function.Injective change) :
    Function.Injective (Except.map (ε := ε) change) := by
  intro left right same
  cases left with
  | error fault => exact (map_error_iff.mp same.symm).symm
  | ok value =>
    obtain ⟨other, found, alike⟩ := of_map_ok same.symm
    rw [found, injective alike]

/-- Items are read one by one. -/
theorem mapM_ok_iff {read : α → Except ε β} {items : List α} {values : List β} :
    items.mapM read = .ok values ↔
      List.Forall₂ (fun item value => read item = .ok value) items values := by
  induction items generalizing values with
  | nil =>
    constructor
    · intro all
      cases all
      exact .nil
    · intro all
      cases all
      rfl
  | cons first rest ih =>
    rw [List.mapM_cons]
    constructor
    · intro all
      obtain ⟨value, head, more⟩ := of_bind_ok all
      obtain ⟨others, tail, same⟩ := of_bind_ok more
      cases same
      exact .cons head (ih.mp tail)
    · intro all
      cases all with
      | cons head tail =>
        rw [head, ih.mpr tail]
        rfl

/-- Items that can all be read are read in their order. -/
theorem mapM_ok_of_forall {read : α → Except ε β} {value : α → β} {items : List α}
    (reads : ∀ item ∈ items, read item = .ok (value item)) :
    items.mapM read = .ok (items.map value) := by
  apply mapM_ok_iff.mpr
  apply List.forall₂_map_right_iff.mpr
  exact List.forall₂_same.mpr reads

theorem exists_mapM_ok {read : α → Except ε β} {items : List α}
    (reads : ∀ item ∈ items, ∃ value, read item = .ok value) :
    ∃ values, items.mapM read = .ok values := by
  induction items with
  | nil => exact ⟨[], rfl⟩
  | cons first rest ih =>
    obtain ⟨value, head⟩ := reads first List.mem_cons_self
    obtain ⟨values, tail⟩ := ih fun item member => reads item (List.mem_cons_of_mem _ member)
    rw [List.mapM_cons, head, tail]
    exact ⟨value :: values, rfl⟩

/-- Items are read up to the first that cannot be read. -/
theorem mapM_error {read : α → Except ε β} {before : List α} {item : α} {fault : ε}
    (passed : ∀ earlier ∈ before, ∃ value, read earlier = .ok value)
    (failed : read item = .error fault) (after : List α) :
    (before ++ item :: after).mapM read = .error fault := by
  obtain ⟨values, run⟩ := exists_mapM_ok passed
  rw [List.mapM_append, List.mapM_cons, run, failed]
  rfl

/-- A reading that failed failed at the first item that cannot be read. -/
theorem mapM_error_iff {read : α → Except ε β} {items : List α} {fault : ε} :
    items.mapM read = .error fault ↔ ∃ before item after, items = before ++ item :: after ∧
      (∀ earlier ∈ before, ∃ value, read earlier = .ok value) ∧ read item = .error fault := by
  constructor
  · intro failed
    induction items with
    | nil => cases failed
    | cons first rest ih =>
      rw [List.mapM_cons] at failed
      rcases of_bind_error failed with head | ⟨value, head, failed⟩
      · exact ⟨[], first, rest, rfl, by simp, head⟩
      · rcases of_bind_error failed with tail | ⟨_, _, failed⟩
        · obtain ⟨before, item, after, rfl, passed, failed⟩ := ih tail
          exact ⟨first :: before, item, after, rfl,
            List.forall_mem_cons.mpr ⟨⟨value, head⟩, passed⟩, failed⟩
        · cases failed
  · intro ⟨before, item, after, split, passed, failed⟩
    rw [split]
    exact mapM_error passed failed after

theorem mapM_congr {read read' : α → Except ε β} {items : List α}
    (alike : ∀ item ∈ items, read item = read' item) : items.mapM read = items.mapM read' := by
  induction items with
  | nil => rfl
  | cons first rest ih =>
    rw [List.mapM_cons, List.mapM_cons, alike first List.mem_cons_self,
      ih fun item member => alike item (List.mem_cons_of_mem _ member)]

/-- Readings that fail alike on each item fail alike on a list. -/
theorem map_const_mapM {read : α → Except ε β} {read' : α → Except ε γ}
    (alike : ∀ item, (read item).map (fun _ => ()) = (read' item).map fun _ => ()) {δ : Type}
    (items : List α) (value : δ) :
    (items.mapM read).map (fun _ => value) = (items.mapM read').map fun _ => value := by
  induction items with
  | nil => rfl
  | cons first rest ih =>
    have head := alike first
    rw [List.mapM_cons, List.mapM_cons]
    cases one : read first <;> cases other : read' first <;> rw [one, other] at head
    · cases head
      rfl
    · cases head
    · cases head
    · revert ih
      generalize rest.mapM read = tail
      generalize rest.mapM read' = tail'
      cases tail <;> cases tail' <;> exact id

end TagQuery.Outcome
