import Mathlib.Data.List.Forall2
import TagQuery.Filter.Formula
import TagQuery.Proofs.Action.Outcome

/-! What a formula says when it is known which of its leaves hold, and formulas whose
leaves are replaced. -/

namespace TagQuery.Formula

variable {α β γ ε : Type}

/-- Whether a formula holds, when `holds` says which leaves do. -/
def Holds (holds : α → Prop) : Formula α → Prop
  | .leaf content => holds content
  | .and left right => left.Holds holds ∧ right.Holds holds
  | .or left right => left.Holds holds ∨ right.Holds holds
  | .not inner => ¬ inner.Holds holds

/-- The formula of the same shape with another leaf for every leaf. -/
def map (change : α → β) : Formula α → Formula β
  | .leaf content => .leaf (change content)
  | .and left right => .and (left.map change) (right.map change)
  | .or left right => .or (left.map change) (right.map change)
  | .not inner => .not (inner.map change)

/-- Replace every leaf, from left to right; the first leaf that fails decides. -/
def traverse (replace : α → Except ε β) : Formula α → Except ε (Formula β)
  | .leaf content => do return .leaf (← replace content)
  | .and left right => do return .and (← left.traverse replace) (← right.traverse replace)
  | .or left right => do return .or (← left.traverse replace) (← right.traverse replace)
  | .not inner => do return .not (← inner.traverse replace)

/-- Formulas of one shape whose leaves stand in a relation, place by place. -/
inductive Matched (relates : α → β → Prop) : Formula α → Formula β → Prop
  | leaf {one : α} {other : β} (related : relates one other) :
    Matched relates (.leaf one) (.leaf other)
  | and {left right : Formula α} {left' right' : Formula β} :
    Matched relates left left' → Matched relates right right' →
      Matched relates (.and left right) (.and left' right')
  | or {left right : Formula α} {left' right' : Formula β} :
    Matched relates left left' → Matched relates right right' →
      Matched relates (.or left right) (.or left' right')
  | not {inner : Formula α} {inner' : Formula β} :
    Matched relates inner inner' → Matched relates (.not inner) (.not inner')

namespace Matched

variable {relates relates' : α → β → Prop} {formula : Formula α} {other : Formula β}

theorem imp (weaken : ∀ one two, relates one two → relates' one two)
    (matched : Matched relates formula other) : Matched relates' formula other := by
  induction matched with
  | leaf related => exact .leaf (weaken _ _ related)
  | and _ _ left right => exact .and left right
  | or _ _ left right => exact .or left right
  | not _ inner => exact .not inner

/-- Matched formulas hold together when their related leaves do. -/
theorem holds_iff {holds : α → Prop} {holds' : β → Prop}
    (agree : ∀ one two, relates one two → (holds one ↔ holds' two))
    (matched : Matched relates formula other) : formula.Holds holds ↔ other.Holds holds' := by
  induction matched with
  | leaf related => exact agree _ _ related
  | and _ _ left right => exact and_congr left right
  | or _ _ left right => exact or_congr left right
  | not _ inner => exact not_congr inner

theorem eq_map {change : α → β} (matched : Matched relates formula other)
    (changed : ∀ one two, relates one two → two = change one) : other = formula.map change := by
  induction matched with
  | leaf related => rw [map, changed _ _ related]
  | and _ _ left right => rw [map, left, right]
  | or _ _ left right => rw [map, left, right]
  | not _ inner => rw [map, inner]

theorem forall₂_leaves (matched : Matched relates formula other) :
    List.Forall₂ relates formula.leaves other.leaves := by
  induction matched with
  | leaf related => exact .cons related .nil
  | and _ _ left right => exact List.rel_append left right
  | or _ _ left right => exact List.rel_append left right
  | not _ inner => exact inner

/-- Related leaves of matched formulas stand at one place of their lists. -/
theorem zipped (matched : Matched relates formula other) :
    Matched (fun one two => relates one two ∧ (one, two) ∈ formula.leaves.zip other.leaves)
      formula other := by
  induction matched with
  | leaf related => exact .leaf ⟨related, by simp [leaves]⟩
  | and left right leftZipped rightZipped =>
    rw [leaves, leaves, List.zip_append left.forall₂_leaves.length_eq]
    refine .and (leftZipped.imp ?_) (rightZipped.imp ?_)
    · exact fun _ _ ⟨related, member⟩ => ⟨related, List.mem_append_left _ member⟩
    · exact fun _ _ ⟨related, member⟩ => ⟨related, List.mem_append_right _ member⟩
  | or left right leftZipped rightZipped =>
    rw [leaves, leaves, List.zip_append left.forall₂_leaves.length_eq]
    refine .or (leftZipped.imp ?_) (rightZipped.imp ?_)
    · exact fun _ _ ⟨related, member⟩ => ⟨related, List.mem_append_left _ member⟩
    · exact fun _ _ ⟨related, member⟩ => ⟨related, List.mem_append_right _ member⟩
  | not _ inner => exact .not inner

/-- Matched formulas are replaced by the same one when related leaves are. -/
theorem eq_of_replaced {replaces : α → γ → Prop} {replaces' : β → γ → Prop}
    {replaced replaced' : Formula γ}
    (agree : ∀ one two new new', relates one two → replaces one new → replaces' two new' → new = new')
    (matched : Matched relates formula other) (first : Matched replaces formula replaced)
    (second : Matched replaces' other replaced') : replaced = replaced' := by
  induction matched generalizing replaced replaced' with
  | leaf related =>
    cases first with
    | leaf done =>
      cases second with
      | leaf done' => exact congrArg Formula.leaf (agree _ _ _ _ related done done')
  | and _ _ left right =>
    cases first with
    | and leftFirst rightFirst =>
      cases second with
      | and leftSecond rightSecond =>
        rw [left leftFirst leftSecond, right rightFirst rightSecond]
  | or _ _ left right =>
    cases first with
    | or leftFirst rightFirst =>
      cases second with
      | or leftSecond rightSecond =>
        rw [left leftFirst leftSecond, right rightFirst rightSecond]
  | not _ inner =>
    cases first with
    | not innerFirst =>
      cases second with
      | not innerSecond => rw [inner innerFirst innerSecond]

end Matched

/-- Replacing keeps the shape and relates every leaf to what it is replaced by. -/
theorem matched_of_traverse {replace : α → Except ε β} {formula : Formula α}
    {replaced : Formula β} (ran : formula.traverse replace = .ok replaced) :
    Matched (fun one two => one ∈ formula.leaves ∧ replace one = .ok two) formula replaced := by
  induction formula generalizing replaced with
  | leaf content =>
    obtain ⟨atom, done, same⟩ := Outcome.of_bind_ok ran
    cases same
    exact .leaf ⟨by simp [leaves], done⟩
  | and left right leftMatched rightMatched =>
    obtain ⟨first, leftRan, more⟩ := Outcome.of_bind_ok ran
    obtain ⟨second, rightRan, same⟩ := Outcome.of_bind_ok more
    cases same
    refine .and ((leftMatched leftRan).imp ?_) ((rightMatched rightRan).imp ?_)
    · exact fun _ _ ⟨member, done⟩ => ⟨List.mem_append_left _ member, done⟩
    · exact fun _ _ ⟨member, done⟩ => ⟨List.mem_append_right _ member, done⟩
  | or left right leftMatched rightMatched =>
    obtain ⟨first, leftRan, more⟩ := Outcome.of_bind_ok ran
    obtain ⟨second, rightRan, same⟩ := Outcome.of_bind_ok more
    cases same
    refine .or ((leftMatched leftRan).imp ?_) ((rightMatched rightRan).imp ?_)
    · exact fun _ _ ⟨member, done⟩ => ⟨List.mem_append_left _ member, done⟩
    · exact fun _ _ ⟨member, done⟩ => ⟨List.mem_append_right _ member, done⟩
  | not inner innerMatched =>
    obtain ⟨first, innerRan, same⟩ := Outcome.of_bind_ok ran
    cases same
    exact .not (innerMatched innerRan)

/-- The leaves are replaced in their order, whatever joins them. -/
theorem map_leaves_traverse (replace : α → Except ε β) (formula : Formula α) :
    (formula.traverse replace).map leaves = formula.leaves.mapM replace := by
  induction formula with
  | leaf content =>
    rw [traverse, leaves, List.mapM_cons]
    cases replace content <;> rfl
  | and left right leftReplaced rightReplaced =>
    rw [traverse, leaves, List.mapM_append, ← leftReplaced, ← rightReplaced]
    cases left.traverse replace <;> cases right.traverse replace <;> rfl
  | or left right leftReplaced rightReplaced =>
    rw [traverse, leaves, List.mapM_append, ← leftReplaced, ← rightReplaced]
    cases left.traverse replace <;> cases right.traverse replace <;> rfl
  | not inner replaced =>
    rw [traverse, leaves, ← replaced]
    cases inner.traverse replace <;> rfl

end TagQuery.Formula
