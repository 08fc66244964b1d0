import TagQuery.Proofs.Filter.Leaves
import TagQuery.Proofs.Listing.Passes

/-! What a compiled filter was made from. -/

namespace TagQuery

theorem Leaf.mem_subjects {leaf : Leaf} {filter : Filter} {tag : Tag} (member : leaf ∈ filter.leaves)
    (subject : leaf.subject? = some tag) : tag ∈ filter.subjects :=
  List.mem_filterMap.mpr ⟨leaf, member, subject⟩

theorem Tag.signature_mem_signatures {tag : Tag} {filter : Filter} (member : tag ∈ filter.subjects) :
    tag.signature ∈ filter.signatures :=
  List.mem_eraseDups.mpr (List.mem_map_of_mem member)

namespace Filter

variable {σ : Type} [IdCache σ] {filter : Filter} {compiled : CompiledFilter}

/-- The second pass in terms of the leaves: all but the predicate is known before they are
replaced. -/
theorem compileResolved_eq (filter : Filter) (resolved : Resolution) :
    filter.compileResolved resolved =
      (filter.traverse (Leaf.atom resolved (filter.families resolved))).map fun predicate =>
        { predicate
          order := .ofDirectives filter.directives
          params := familyParams (filter.families resolved)
          counts := ⟨filter.signatures.length, resolved.size, (filter.families resolved).length⟩ } := by
  have visited := PredicateFold.foldl_visit resolved filter.leaves
  have numbered : (filter.leaves.foldl (PredicateFold.visit resolved) {}).families <+:
      filter.families resolved := by
    rw [visited]
    exact List.prefix_rfl
  rw [← fst_runFrom_fold numbered]
  unfold compileResolved
  rcases ran : (filter.fold resolved).runFrom {} with ⟨fault | predicate, after⟩
  · rfl
  · rw [after_fold ran, visited]
    rfl

theorem of_compileResolved_ok {resolved : Resolution}
    (ran : filter.compileResolved resolved = .ok compiled) :
    filter.traverse (Leaf.atom resolved (filter.families resolved)) = .ok compiled.predicate ∧
      compiled.order = .ofDirectives filter.directives ∧
      compiled.params = familyParams (filter.families resolved) ∧
      compiled.counts = ⟨filter.signatures.length, resolved.size,
        (filter.families resolved).length⟩ := by
  rw [compileResolved_eq] at ran
  obtain ⟨predicate, traversed, rfl⟩ := Outcome.of_map_ok ran
  exact ⟨traversed, rfl, rfl, rfl⟩

/-- What a filter comes to once the cache has answered for its signatures. -/
def settled (filter : Filter) : Except CacheFault Resolution → Except Failure CompiledFilter
  | .error fault => .error (.ofCache fault)
  | .ok resolved => (filter.compileResolved resolved).mapError .ofQuery

/-- The tags are checked before the cache is asked. -/
theorem runFrom_compile (filter : Filter) (cache : σ) : filter.compile.runFrom cache =
    match filter.subjects.forM Tag.check with
    | .error fault => (.error (.ofQuery fault), cache)
    | .ok () =>
      (filter.settled ((resolve filter.signatures).runFrom cache).1,
        ((resolve filter.signatures).runFrom cache).2) := by
  have ends := filter.collects []
  unfold compile
  generalize filter.collect.runFrom [] = collected at ends
  cases ends with
  | refused checks =>
    rw [checks]
    rfl
  | all checks =>
    rw [checks, foldl_pushUnique]
    change ((resolve filter.signatures).mapFault Failure.ofCache >>= fun resolved =>
      .ofExcept ((filter.compileResolved resolved).mapError .ofQuery)).runFrom cache = _
    rw [Action.runFrom_bind, Action.runFrom_mapFault]
    rcases (resolve filter.signatures).runFrom cache with ⟨fault | resolved, after⟩ <;> rfl

/-- A compiled filter has good tags, and its signatures were resolved by the cache. -/
theorem of_compile_ok {cache after : σ} (ran : filter.compile.runFrom cache = (.ok compiled, after)) :
    (∀ tag ∈ filter.subjects, tag.check = .ok ()) ∧ ∃ resolved,
      (resolve filter.signatures).runFrom cache = (.ok resolved, after) ∧
        filter.compileResolved resolved = .ok compiled := by
  rw [runFrom_compile] at ran
  cases checks : filter.subjects.forM Tag.check with
  | error fault =>
    rw [checks] at ran
    cases ran
  | ok =>
    rw [checks] at ran
    obtain ⟨settles, rfl⟩ := Prod.mk.inj ran
    rcases asked : (resolve filter.signatures).runFrom cache with ⟨fault | resolved, after⟩
    · rw [asked] at settles
      cases settles
    · rw [asked] at settles
      exact ⟨Outcome.forM_ok_iff.mp checks, resolved, rfl, Outcome.mapError_ok_iff.mp settles⟩

/-- A filter that is not compiled has a bad tag, or its signatures were not resolved, or one of
its valued tags was not among them. -/
theorem of_compile_error {cache after : σ} {failure : Failure}
    (ran : filter.compile.runFrom cache = (.error failure, after)) :
    (∃ fault, failure = .ofQuery fault ∧ after = cache) ∨
    (∃ fault, (resolve filter.signatures).runFrom cache = (.error fault, after) ∧
      failure = .ofCache fault) ∨
    ∃ resolved fault, (resolve filter.signatures).runFrom cache = (.ok resolved, after) ∧
      failure = .ofQuery fault := by
  rw [runFrom_compile] at ran
  cases checks : filter.subjects.forM Tag.check with
  | error fault =>
    rw [checks] at ran
    cases ran
    exact .inl ⟨fault, rfl, rfl⟩
  | ok =>
    rw [checks] at ran
    dsimp only at ran
    generalize (resolve filter.signatures).runFrom cache = asked at ran ⊢
    obtain ⟨answer, middle⟩ := asked
    obtain ⟨failed, rfl⟩ := Prod.mk.inj ran
    rcases answer with fault | resolved
    · cases failed
      exact .inr (.inl ⟨fault, rfl, rfl⟩)
    · dsimp only [settled] at failed
      cases made : filter.compileResolved resolved with
      | error fault =>
        rw [made] at failed
        cases failed
        exact .inr (.inr ⟨resolved, fault, rfl, rfl⟩)
      | ok compiled =>
        rw [made] at failed
        cases failed

section Single

variable {tag : Tag} (tests : (Leaf.tag tag).subject? = some tag)

include tests

theorem subjects_ofTag : (ofTag tag).subjects = [tag] := by
  simp [subjects, ofTag, Formula.leaves, tests]

theorem signatures_ofTag : (ofTag tag).signatures = [tag.signature] := by
  rw [signatures, subjects_ofTag tests]
  rfl

/-- A filter of one tag that has an identifier becomes a test for that. -/
theorem compileResolved_ofTag {resolved : Resolution} {id : TagId}
    (found : resolved.get? tag.signature = some id) :
    ∃ compiled, (ofTag tag).compileResolved resolved = .ok compiled ∧
      compiled.predicate = .leaf (.carries id) ∧ compiled.params = .empty := by
  have families : (ofTag tag).families resolved = [] := by
    simp [families, subjects_ofTag tests, isFamily, found]
  have atom : Leaf.atom resolved [] (.tag tag) = .ok (.carries id) := by
    simp [Leaf.atom, tests, found]
  have traversed : (ofTag tag).traverse (Leaf.atom resolved []) = .ok (.leaf (.carries id)) := by
    rw [ofTag, Formula.traverse, atom]
    rfl
  rw [compileResolved_eq, families, traversed]
  exact ⟨_, rfl, rfl, rfl⟩

theorem runFrom_compile_ofTag {cache : σ} {resolved : Resolution} {id : TagId}
    (valid : tag.check = .ok ())
    (asked : (IdCache.lookupMany [tag.signature]).runFrom cache = (.ok resolved, cache))
    (found : resolved.get? tag.signature = some id) :
    ∃ compiled, (ofTag tag).compile.runFrom cache = (.ok compiled, cache) ∧
      compiled.predicate = .leaf (.carries id) ∧ compiled.params = .empty := by
  obtain ⟨compiled, made, predicate, params⟩ := compileResolved_ofTag tests found
  have checked : [tag].forM Tag.check = .ok () :=
    Outcome.forM_ok_iff.mpr fun named member => List.mem_singleton.mp member ▸ valid
  refine ⟨compiled, ?_, predicate, params⟩
  rw [runFrom_compile, subjects_ofTag tests, signatures_ofTag tests, checked, resolve,
    if_neg (List.cons_ne_nil _ _), asked]
  dsimp only [settled]
  rw [made]
  rfl

end Single

end Filter

end TagQuery
