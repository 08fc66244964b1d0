import Mathlib.Data.List.Nodup
import TagQuery.Proofs.List.Runs

/-! Lists whose repetitions are dropped. -/

namespace TagQuery

/-- Dropping repetitions goes on with what a filter leaves of the rest. What holds of a list when it
holds of all that filters leave of its rest holds of every list. -/
@[elab_as_elim]
theorem filterRec {α : Type} {motive : List α → Prop} (nil : motive [])
    (cons : ∀ first rest, (∀ keeps : α → Bool, motive (rest.filter keeps)) → motive (first :: rest))
    (items : List α) : motive items := by
  induction length : items.length using Nat.strongRecOn generalizing items with
  | ind bound shorter =>
    cases items with
    | nil => exact nil
    | cons first rest =>
      refine cons first rest fun keeps => shorter _ ?_ _ rfl
      have fewer := List.length_filter_le keeps rest
      simp only [List.length_cons] at length
      omega

theorem nodup_eraseDups {α : Type} [DecidableEq α] (items : List α) : items.eraseDups.Nodup := by
  induction items using filterRec with
  | nil => simp
  | cons first rest ih =>
    rw [List.eraseDups_cons, List.nodup_cons]
    refine ⟨?_, ih _⟩
    rw [List.mem_eraseDups, List.mem_filter]
    simp

/-- Renaming items apart keeps which of them are repeated. -/
theorem eraseDups_map {α β : Type} [BEq α] [LawfulBEq α] [BEq β] [LawfulBEq β] {change : α → β}
    {items : List α}
    (injective : ∀ first ∈ items, ∀ second ∈ items, change first = change second → first = second) :
    (items.map change).eraseDups = items.eraseDups.map change := by
  induction items using filterRec with
  | nil => simp
  | cons first rest ih =>
    have kept : (rest.map change).filter (fun item => !item == change first) =
        (rest.filter fun item => !item == first).map change := by
      rw [List.filter_map]
      congr 1
      apply List.filter_congr
      intro item member
      have same : change item = change first ↔ item = first :=
        ⟨injective item (List.mem_cons_of_mem _ member) first List.mem_cons_self,
          congrArg change⟩
      rw [Function.comp_apply, Bool.eq_iff_iff, Bool.not_eq_true', Bool.not_eq_true',
        beq_eq_false_iff_ne, beq_eq_false_iff_ne]
      exact not_congr same
    have later := ih (fun item => !item == first) fun one member two member' =>
      injective one (List.mem_cons_of_mem _ (List.mem_of_mem_filter member)) two
        (List.mem_cons_of_mem _ (List.mem_of_mem_filter member'))
    rw [List.map_cons, List.eraseDups_cons, List.eraseDups_cons, List.map_cons, kept, later]

/-- Lists with the same items have equally many distinct ones. -/
theorem length_eraseDups_congr {α : Type} [DecidableEq α] {items items' : List α}
    (same : ∀ item, item ∈ items ↔ item ∈ items') :
    items.eraseDups.length = items'.eraseDups.length := by
  refine List.Perm.length_eq ?_
  rw [List.perm_ext_iff_of_nodup (nodup_eraseDups items) (nodup_eraseDups items')]
  intro item
  rw [List.mem_eraseDups, List.mem_eraseDups, same]

theorem subset_of_eraseDupsBy {α : Type} (same : α → α → Bool) (items : List α) :
    items.eraseDupsBy same ⊆ items := by
  induction items using filterRec with
  | nil => exact List.Subset.refl []
  | cons first rest ih =>
    rw [List.eraseDupsBy_cons]
    refine List.cons_subset_cons first ?_
    exact List.Subset.trans (ih _) (List.filter_subset_self _)

/-- Items that are dropped for a repeated part leave the distinct parts. -/
theorem map_eraseDupsBy {α β : Type} [BEq β] (part : α → β) (items : List α) :
    (items.eraseDupsBy fun later earlier => part later == part earlier).map part =
      (items.map part).eraseDups := by
  induction items using filterRec with
  | nil => rfl
  | cons first rest ih =>
    have kept : (rest.filter fun item => (part item == part first) = false).map part =
        (rest.map part).filter fun item => !item == part first := by
      rw [List.filter_map]
      simp [Function.comp_def]
    rw [List.eraseDupsBy_cons, List.map_cons, ih, kept, List.map_cons, List.eraseDups_cons]

/-- Two ways to compare items drop the same ones when they agree on them. -/
theorem eraseDupsBy_congr {α : Type} {same same' : α → α → Bool} {items : List α}
    (alike : ∀ later ∈ items, ∀ earlier ∈ items, same later earlier = same' later earlier) :
    items.eraseDupsBy same = items.eraseDupsBy same' := by
  induction items using filterRec with
  | nil => rfl
  | cons first rest ih =>
    have kept : (rest.filter fun item => same item first = false) =
        rest.filter fun item => same' item first = false :=
      List.filter_congr fun item member => by
        rw [alike item (List.mem_cons_of_mem _ member) first List.mem_cons_self]
    rw [List.eraseDupsBy_cons, List.eraseDupsBy_cons, kept]
    refine congrArg (first :: ·) (ih _ fun later member earlier member' => ?_)
    exact alike later (List.mem_cons_of_mem _ (List.mem_filter.mp member).1) earlier
      (List.mem_cons_of_mem _ (List.mem_filter.mp member').1)

theorem eraseDups_of_nodup {α : Type} [DecidableEq α] {items : List α} (distinct : items.Nodup) :
    items.eraseDups = items := by
  induction items with
  | nil => rfl
  | cons first rest ih =>
    rw [List.nodup_cons] at distinct
    have kept : (rest.filter fun item => !item == first) = rest := by
      apply List.filter_eq_self.mpr
      intro item member
      have different : item ≠ first := fun same => distinct.1 (same ▸ member)
      simpa using different
    rw [List.eraseDups_cons, kept, ih distinct.2]

/-- New distinct items stay where they are. -/
theorem eraseDups_append_of_fresh {α : Type} [DecidableEq α] {items more : List α}
    (distinct : more.Nodup) (fresh : ∀ item ∈ more, item ∉ items) :
    (items ++ more).eraseDups = items.eraseDups ++ more := by
  have kept : more.removeAll items = more := by
    apply List.filter_eq_self.mpr
    intro item member
    simpa using fresh item member
  rw [List.eraseDups_append, kept, eraseDups_of_nodup distinct]

/-- One more item stays unless it is repeated. -/
theorem eraseDups_append_singleton {α : Type} [DecidableEq α] (items : List α) (item : α) :
    (items ++ [item]).eraseDups =
      if item ∈ items then items.eraseDups else items.eraseDups ++ [item] := by
  split
  · next known =>
    have dropped : [item].removeAll items = [] := by simp [List.removeAll, known]
    rw [List.eraseDups_append, dropped, List.eraseDups_nil, List.append_nil]
  · next new =>
    refine eraseDups_append_of_fresh (List.nodup_singleton item) fun other member => ?_
    exact List.mem_singleton.mp member ▸ new

/-- The first of some kind is the first whether repetitions are dropped or not. -/
theorem find?_eraseDups {α : Type} [DecidableEq α] (holds : α → Bool) (items : List α) :
    items.eraseDups.find? holds = items.find? holds := by
  induction items using filterRec with
  | nil => simp
  | cons first rest ih =>
    rw [List.eraseDups_cons]
    by_cases head : holds first
    · rw [List.find?_cons_of_pos head, List.find?_cons_of_pos head]
    · rw [List.find?_cons_of_neg head, List.find?_cons_of_neg head, ih, List.find?_filter]
      refine congrArg (List.find? · rest) (funext fun item => ?_)
      by_cases same : item = first
      · simp [same, head]
      · simp [same]

theorem map_idxOf_of_nodup {α : Type} [DecidableEq α] {items : List α} (distinct : items.Nodup) :
    items.map (items.idxOf ·) = List.range items.length := by
  apply List.ext_getElem
  · simp
  · intro index inside _
    rw [List.getElem_map, List.getElem_range, distinct.idxOf_getElem]

/-- Renaming items apart keeps where each of them stands. -/
theorem idxOf_map {α β : Type} [BEq α] [LawfulBEq α] [BEq β] [LawfulBEq β] {change : α → β}
    {items : List α} {item : α} (member : item ∈ items)
    (injective : ∀ first ∈ items, ∀ second ∈ items, change first = change second → first = second) :
    (items.map change).idxOf (change item) = items.idxOf item := by
  induction items with
  | nil => simp at member
  | cons first rest ih =>
    rw [List.map_cons, List.idxOf_cons, List.idxOf_cons]
    by_cases same : first = item
    · simp [same]
    · have other : change first ≠ change item :=
        fun equal => same (injective first List.mem_cons_self item member equal)
      have later : item ∈ rest := by
        rcases List.mem_cons.mp member with here | later
        · exact absurd here.symm same
        · exact later
      have counted := ih later fun one inside two inside' =>
        injective one (List.mem_cons_of_mem _ inside) two (List.mem_cons_of_mem _ inside')
      rw [beq_false_of_ne same, beq_false_of_ne other, counted]

/-- An item stands after all distinct ones that occur before it does. -/
theorem idxOf_eraseDups {α : Type} [DecidableEq α] {items : List α} {item : α}
    (member : item ∈ items) :
    items.eraseDups.idxOf item = (items.takeWhile (· != item)).eraseDups.length := by
  obtain ⟨before, after, rfl, fresh⟩ := List.eq_append_cons_of_mem member
  have others : ∀ other ∈ before, other != item := by
    intro other inside
    exact bne_iff_ne.mpr (ne_of_mem_of_not_mem inside fresh)
  have taken : (before ++ item :: after).takeWhile (· != item) = before :=
    takeWhile_append_of_stop others (by simp)
  have new : item ∉ before.eraseDups := mt List.mem_eraseDups.mp fresh
  have kept : (item :: after).removeAll before = item :: after.removeAll before := by
    rw [List.cons_removeAll, if_pos (by simpa using fresh)]
  rw [taken, List.eraseDups_append, kept, List.eraseDups_cons, List.idxOf_append, if_neg new,
    List.idxOf_cons_self, Nat.zero_add]

/-- Numbered by their first occurrences, items first occur in the order of the numbers. -/
theorem eraseDups_map_idxOf {α : Type} [DecidableEq α] (items : List α) :
    (items.map (items.eraseDups.idxOf ·)).eraseDups = List.range items.eraseDups.length := by
  rw [eraseDups_map, map_idxOf_of_nodup (nodup_eraseDups items)]
  intro first memberFirst second _ same
  exact (List.idxOf_inj (List.mem_eraseDups.mpr memberFirst)).mp same

section Gather

variable {α β κ : Type} [DecidableEq κ] (key : α → κ)

/-- The items with each key, in the order in which the keys first occur. -/
def gather (items : List α) : List (List α) :=
  (items.map key).eraseDups.map fun name => items.filter (key · = name)

variable {key}

/-- Items with a key of their own at the front are gathered first. -/
theorem gather_append {first more : List α} {name : κ} (filled : first ≠ [])
    (named : ∀ item ∈ first, key item = name) (others : ∀ item ∈ more, key item ≠ name) :
    gather key (first ++ more) = first :: gather key more := by
  obtain ⟨head, tail, rfl⟩ := List.exists_cons_of_ne_nil filled
  have ofTail : (tail.map key).filter (fun one => !one == name) = [] := by
    rw [List.filter_eq_nil_iff]
    intro one member
    obtain ⟨item, inside, rfl⟩ := List.mem_map.mp member
    simp [named item (List.mem_cons_of_mem _ inside)]
  have ofMore : (more.map key).filter (fun one => !one == name) = more.map key := by
    rw [List.filter_eq_self]
    intro one member
    obtain ⟨item, inside, rfl⟩ := List.mem_map.mp member
    simpa using others item inside
  have keys : ((head :: tail ++ more).map key).eraseDups = name :: (more.map key).eraseDups := by
    rw [List.cons_append, List.map_cons, named head List.mem_cons_self, List.eraseDups_cons,
      List.map_append, List.filter_append, ofTail, ofMore, List.nil_append]
  have here : (head :: tail ++ more).filter (key · = name) = head :: tail := by
    rw [List.filter_append, List.filter_eq_self.mpr (by simpa using named),
      List.filter_eq_nil_iff.mpr (by simpa using others), List.append_nil]
  rw [gather, keys, List.map_cons, here, gather]
  refine congrArg _ (List.map_congr_left fun other member => ?_)
  have different : ∀ item ∈ head :: tail, key item ≠ other := by
    obtain ⟨item, inside, rfl⟩ := List.mem_map.mp (List.mem_eraseDups.mp member)
    exact fun one front same => others item inside (same ▸ named one front)
  rw [List.filter_append, List.filter_eq_nil_iff.mpr (by simpa using different), List.nil_append]

/-- Runs of items that each have a key of their own are gathered as they stand. -/
theorem gather_flatMap {run : β → List α} {name : β → κ} {sources : List β}
    (apart : (sources.map name).Nodup) (filled : ∀ source ∈ sources, run source ≠ [])
    (named : ∀ source ∈ sources, ∀ item ∈ run source, key item = name source) :
    gather key (sources.flatMap run) = sources.map run := by
  induction sources with
  | nil => rfl
  | cons first rest ih =>
    rw [List.map_cons, List.nodup_cons] at apart
    rw [List.forall_mem_cons] at filled named
    rw [List.flatMap_cons, List.map_cons, gather_append filled.1 named.1,
      ih apart.2 filled.2 named.2]
    intro item member same
    obtain ⟨source, later, inside⟩ := List.mem_flatMap.mp member
    have shared := (named.2 source later item inside).symm.trans same
    exact apart.1 (List.mem_map.mpr ⟨source, later, shared⟩)

omit [DecidableEq κ] in
/-- Runs of items that pass together are kept whole or not at all. -/
theorem filter_flatMap_of_run {run : β → List α} {passes : α → Bool} {chosen : β → Bool}
    {sources : List β}
    (together : ∀ source ∈ sources, ∀ item ∈ run source, passes item = chosen source) :
    (sources.flatMap run).filter passes = (sources.filter chosen).flatMap run := by
  induction sources with
  | nil => rfl
  | cons first rest ih =>
    rw [List.forall_mem_cons] at together
    rw [List.flatMap_cons, List.filter_append, ih together.2]
    by_cases kept : chosen first
    · rw [List.filter_cons_of_pos kept, List.flatMap_cons, List.filter_eq_self.mpr]
      exact fun item member => (together.1 item member).trans kept
    · rw [List.filter_cons_of_neg kept, List.filter_eq_nil_iff.mpr, List.nil_append]
      exact fun item member passed => kept ((together.1 item member).symm.trans passed)

end Gather

end TagQuery
