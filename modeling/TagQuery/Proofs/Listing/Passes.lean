import Mathlib.Data.List.Induction
import TagQuery.Proofs.Action.Outcome
import TagQuery.Proofs.Action.Run
import TagQuery.Proofs.Filter.Formula
import TagQuery.Proofs.Listing.Families

/-! What the two passes over the tree of a filter come to, said of its leaves from left to right. -/

namespace TagQuery

theorem pushUnique_eraseDups {α : Type} [DecidableEq α] (items : List α) (item : α) :
    pushUnique items.eraseDups item = (items ++ [item]).eraseDups := by
  rw [eraseDups_append_singleton]
  simp [pushUnique]

theorem foldl_pushUnique {α : Type} [DecidableEq α] (items : List α) :
    items.foldl pushUnique [] = items.eraseDups := by
  induction items using List.reverseRecOn with
  | nil => rfl
  | append_singleton items item ih =>
    rw [List.foldl_append, ih]
    exact pushUnique_eraseDups items item

theorem prefix_pushUnique {α : Type} [DecidableEq α] (items : List α) (item : α) :
    items <+: pushUnique items item := by
  unfold pushUnique
  split
  · exact List.prefix_rfl
  · exact List.prefix_append _ _

theorem mem_pushUnique {α : Type} [DecidableEq α] (items : List α) (item : α) :
    item ∈ pushUnique items item := by
  unfold pushUnique
  split
  · next known => exact known
  · exact List.mem_concat_self

/-- The ends of collecting the signatures of tags: all of them are good, or the first bad one decides. -/
inductive Collects (tags : List Tag) (before : List Signature) :
    Except QueryFault Unit × List Signature → Prop
  | all : tags.forM Tag.check = .ok () →
    Collects tags before (.ok (), (tags.map Tag.signature).foldl pushUnique before)
  | refused {fault : QueryFault} {after : List Signature} : tags.forM Tag.check = .error fault →
    Collects tags before (.error fault, after)

namespace Collects

variable {left right : List Tag} {before : List Signature}

theorem append {first second : Action QueryFault (List Signature) Unit}
    (one : Collects left before (first.runFrom before))
    (other : ∀ middle, Collects right middle (second.runFrom middle)) :
    Collects (left ++ right) before ((first >>= fun _ => second).runFrom before) := by
  have checks : (left ++ right).forM Tag.check =
      left.forM Tag.check >>= fun _ => right.forM Tag.check := by
    rw [List.forM_eq_forM, List.forM_append]
  rw [Action.runFrom_bind]
  generalize first.runFrom before = ran at one
  cases one with
  | refused failed =>
    rw [failed] at checks
    exact .refused checks
  | all passed =>
    rw [passed] at checks
    have rest := other ((left.map Tag.signature).foldl pushUnique before)
    dsimp only
    generalize second.runFrom _ = ran at rest
    cases rest with
    | refused failed => exact .refused (checks.trans failed)
    | all passed =>
      rw [← List.foldl_append, ← List.map_append]
      exact .all (checks.trans passed)

end Collects

theorem Leaf.collects (leaf : Leaf) (before : List Signature) :
    Collects leaf.subject?.toList before (leaf.collect.runFrom before) := by
  unfold collect
  cases leaf.subject? with
  | none => exact .all rfl
  | some tag =>
    have checks : [tag].forM Tag.check = tag.check := by
      change (tag.check >>= fun _ => .ok ()) = _
      cases tag.check <;> rfl
    change Collects [tag] before ((Action.ofExcept tag.check >>= _).runFrom before)
    rw [Action.runFrom_bind, Action.runFrom_ofExcept]
    cases checked : tag.check with
    | error fault => exact .refused (checks.trans checked)
    | ok => exact .all (checks.trans checked)

theorem Filter.collects (filter : Filter) (before : List Signature) :
    Collects filter.subjects before (filter.collect.runFrom before) := by
  induction filter generalizing before with
  | leaf leaf =>
    have alone : Filter.subjects (.leaf leaf) = leaf.subject?.toList := by
      cases subject : leaf.subject? <;> simp [Filter.subjects, Formula.leaves, subject]
    rw [alone]
    exact leaf.collects before
  | and left right leftCollects rightCollects | or left right leftCollects rightCollects =>
    change Collects (List.filterMap Leaf.subject? (left.leaves ++ right.leaves)) before _
    rw [List.filterMap_append]
    exact (leftCollects before).append rightCollects
  | not inner collects => exact collects before

namespace PredicateFold

variable {resolved : Resolution} {before : PredicateFold} {leaf : Leaf}

/-- What is made once a leaf was passed. -/
def visit (resolved : Resolution) (before : PredicateFold) (leaf : Leaf) : PredicateFold :=
  ((leaf.fold resolved).runFrom before).2

/-- The ends of the second pass at a leaf. -/
inductive Visits (resolved : Resolution) (before : PredicateFold) (leaf : Leaf) :
    Except QueryFault Atom × PredicateFold → Prop
  | always : leaf.directive? = none → leaf.subject? = none →
    Visits resolved before leaf (.ok .always, before)
  | directive {directive : String} : leaf.directive? = some directive → leaf.subject? = none →
    Visits resolved before leaf (.ok .always, { before with order := before.order.follow directive })
  | known {tag : Tag} {id : TagId} : leaf.directive? = none → leaf.subject? = some tag →
    resolved.get? tag.signature = some id → Visits resolved before leaf (.ok (.carries id), before)
  | family {tag : Tag} : leaf.directive? = none → leaf.subject? = some tag →
    resolved.get? tag.signature = none → tag.value.isNone →
    Visits resolved before leaf
      (.ok (.carriesFamily ((before.meet tag.key).families.idxOf tag.key)), before.meet tag.key)
  | unknown {tag : Tag} : leaf.directive? = none → leaf.subject? = some tag →
    resolved.get? tag.signature = none → ¬ tag.value.isNone →
    Visits resolved before leaf (.error (.unknownTag tag.signature), before)

theorem visits (resolved : Resolution) (before : PredicateFold) (leaf : Leaf) :
    Visits resolved before leaf ((leaf.fold resolved).runFrom before) := by
  cases leaf with
  | always => exact .always rfl rfl
  | tag named =>
    unfold Leaf.fold
    dsimp only
    cases directs : (Leaf.tag named).directive? with
    | some directive => exact .directive directs (by simp [Leaf.subject?, directs])
    | none =>
      have subject : (Leaf.tag named).subject? = some named := by simp [Leaf.subject?, directs]
      cases found : resolved.get? named.signature with
      | some id => exact .known directs subject found
      | none =>
        by_cases bare : named.value.isNone
        · rw [if_pos bare]
          exact .family directs subject found bare
        · rw [if_neg bare]
          exact .unknown directs subject found bare

/-- Numbers of families are given for good. -/
theorem prefix_visit (resolved : Resolution) (before : PredicateFold) (leaf : Leaf) :
    before.families <+: (before.visit resolved leaf).families := by
  have ends := visits resolved before leaf
  unfold visit
  generalize (leaf.fold resolved).runFrom before = ran at ends
  cases ends with
  | family _ _ _ _ => exact prefix_pushUnique _ _
  | _ => exact List.prefix_rfl

theorem prefix_foldl_visit (resolved : Resolution) (leaves : List Leaf) (before : PredicateFold) :
    before.families <+: (leaves.foldl (visit resolved) before).families := by
  induction leaves generalizing before with
  | nil => exact List.prefix_rfl
  | cons leaf rest ih => exact (prefix_visit resolved before leaf).trans (ih _)

/-- A leaf is replaced as it is with the families numbered that come later. -/
theorem fst_runFrom_fold {families : List String}
    (later : (before.visit resolved leaf).families <+: families) :
    ((leaf.fold resolved).runFrom before).1 = leaf.atom resolved families := by
  have ends := visits resolved before leaf
  unfold visit at later
  unfold Leaf.atom
  generalize (leaf.fold resolved).runFrom before = ran at ends later
  cases ends with
  | always _ subject => rw [subject]
  | directive _ subject => rw [subject]
  | known _ subject found => simp only [subject, found]
  | @family tag _ subject found bare =>
    obtain ⟨more, rfl⟩ := later
    have met : tag.key ∈ (before.meet tag.key).families := mem_pushUnique _ _
    simp only [subject, found, if_pos bare, List.idxOf_append_of_mem met]
  | unknown _ subject found valued => simp only [subject, found, if_neg valued]

/-- What is made of leaves: their families are numbered as they first occur. -/
def ofLeaves (resolved : Resolution) (leaves : List Leaf) : PredicateFold :=
  let families := (((leaves.filterMap Leaf.subject?).filter (isFamily resolved)).map Tag.key).eraseDups
  { families
    params := familyParams families
    order := .ofDirectives (leaves.filterMap Leaf.directive?) }

/-- A family is met as one more of those before. -/
private theorem meet_ofLeaves (resolved : Resolution) (leaves : List Leaf) (key : String) :
    let families := pushUnique (ofLeaves resolved leaves).families key
    (ofLeaves resolved leaves).meet key =
      { ofLeaves resolved leaves with families, params := familyParams families } := by
  unfold meet
  dsimp only
  rw [← insert_familyParams]
  rfl

theorem visit_ofLeaves (resolved : Resolution) (leaves : List Leaf) (leaf : Leaf) :
    (ofLeaves resolved leaves).visit resolved leaf = ofLeaves resolved (leaves ++ [leaf]) := by
  have ends := visits resolved (ofLeaves resolved leaves) leaf
  unfold visit
  generalize (leaf.fold resolved).runFrom (ofLeaves resolved leaves) = ran at ends
  cases ends with
  | always silent subject => simp [ofLeaves, silent, subject]
  | directive directs subject => simp [ofLeaves, directs, subject, ListingOrder.ofDirectives]
  | known silent subject found => simp [ofLeaves, silent, subject, isFamily, found]
  | family silent subject found bare =>
    rw [meet_ofLeaves]
    simp [ofLeaves, silent, subject, isFamily, found, bare, pushUnique_eraseDups]
  | unknown silent subject found valued =>
    simp [ofLeaves, silent, subject, isFamily, found, valued]

theorem foldl_visit (resolved : Resolution) (leaves : List Leaf) :
    leaves.foldl (visit resolved) {} = ofLeaves resolved leaves := by
  induction leaves using List.reverseRecOn with
  | nil => rfl
  | append_singleton leaves leaf ih =>
    rw [List.foldl_append, ih]
    exact visit_ofLeaves resolved leaves leaf

end PredicateFold

namespace Filter

open PredicateFold

variable {resolved : Resolution} {before after : PredicateFold} {filter : Filter}

/-- A pass that is not refused visits all leaves. -/
theorem after_fold {predicate : Predicate}
    (ran : (filter.fold resolved).runFrom before = (.ok predicate, after)) :
    after = filter.leaves.foldl (visit resolved) before := by
  induction filter generalizing before after predicate with
  | leaf leaf =>
    obtain ⟨atom, middle, replaced, last⟩ := Action.of_runFrom_bind_ok ran
    cases last
    exact (congrArg Prod.snd replaced).symm
  | and left right leftAfter rightAfter | or left right leftAfter rightAfter =>
    obtain ⟨first, middle, leftRan, more⟩ := Action.of_runFrom_bind_ok ran
    obtain ⟨second, _, rightRan, last⟩ := Action.of_runFrom_bind_ok more
    cases last
    rw [Formula.leaves, List.foldl_append, ← leftAfter leftRan, ← rightAfter rightRan]
  | not inner innerAfter =>
    obtain ⟨first, middle, innerRan, last⟩ := Action.of_runFrom_bind_ok ran
    cases last
    exact innerAfter innerRan

private theorem fst_runFrom_map {ε σ α β : Type} (change : α → β) (action : Action ε σ α) (state : σ) :
    ((action >>= fun value => pure (change value)).runFrom state).1 =
      ((action.runFrom state).1 >>= fun value => pure (change value)) := by
  rw [Action.runFrom_bind]
  rcases action.runFrom state with ⟨fault | value, after⟩ <;> rfl

section Both

variable {left right : Filter} {families : List String}
  (leftReplaced : ∀ {before}, (left.leaves.foldl (visit resolved) before).families <+: families →
    ((left.fold resolved).runFrom before).1 = left.traverse (Leaf.atom resolved families))
  (rightReplaced : ∀ {before}, (right.leaves.foldl (visit resolved) before).families <+: families →
    ((right.fold resolved).runFrom before).1 = right.traverse (Leaf.atom resolved families))

include leftReplaced rightReplaced

/-- One part of a filter is passed after the other. -/
private theorem fst_runFrom_both (join : Predicate → Predicate → Predicate)
    (later : ((left.leaves ++ right.leaves).foldl (visit resolved) before).families <+: families) :
    ((left.fold resolved >>= fun first => right.fold resolved >>= fun second =>
      pure (join first second)).runFrom before).1 =
    (left.traverse (Leaf.atom resolved families) >>= fun first =>
      right.traverse (Leaf.atom resolved families) >>= fun second => pure (join first second)) := by
  rw [List.foldl_append] at later
  have one := leftReplaced ((prefix_foldl_visit resolved right.leaves _).trans later)
  rw [← one, Action.runFrom_bind]
  rcases ran : (left.fold resolved).runFrom before with ⟨fault | first, middle⟩
  · rfl
  · rw [← after_fold ran] at later
    rw [← rightReplaced later]
    exact fst_runFrom_map (join first) (right.fold resolved) middle

end Both

/-- A filter is replaced as it is with all of its families numbered before. -/
theorem fst_runFrom_fold {families : List String}
    (later : (filter.leaves.foldl (visit resolved) before).families <+: families) :
    ((filter.fold resolved).runFrom before).1 = filter.traverse (Leaf.atom resolved families) := by
  induction filter generalizing before with
  | leaf leaf =>
    rw [Formula.traverse, ← PredicateFold.fst_runFrom_fold later]
    exact fst_runFrom_map Formula.leaf (leaf.fold resolved) before
  | and left right leftReplaced rightReplaced =>
    exact fst_runFrom_both leftReplaced rightReplaced .and later
  | or left right leftReplaced rightReplaced =>
    exact fst_runFrom_both leftReplaced rightReplaced .or later
  | not inner replaced =>
    rw [Formula.traverse, ← replaced later]
    exact fst_runFrom_map Formula.not (fold resolved inner) before

end Filter

end TagQuery
