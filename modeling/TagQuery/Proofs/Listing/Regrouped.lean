import TagQuery.Proofs.IdCache.Observed
import TagQuery.Proofs.Listing.Compiled

/-! Filters with the same leaves: how they are joined, and where they are negated, shows in the
shape of the predicate and nowhere else. -/

namespace TagQuery

/-- Compiled filters that differ at most in what joins the leaves of their predicates. -/
structure CompiledFilter.SameButShape (compiled compiled' : CompiledFilter) : Prop where
  leaves : compiled.predicate.leaves = compiled'.predicate.leaves
  order : compiled.order = compiled'.order
  params : compiled.params = compiled'.params
  counts : compiled.counts = compiled'.counts

namespace Filter

/-- The same failure, or compiled filters that are the same but for their shape. -/
inductive EndsAlike : Except Failure CompiledFilter → Except Failure CompiledFilter → Prop
  | failed (failure : Failure) : EndsAlike (.error failure) (.error failure)
  | compiled {compiled compiled' : CompiledFilter} :
    compiled.SameButShape compiled' → EndsAlike (.ok compiled) (.ok compiled')

variable {filter filter' : Filter} (same : filter.leaves = filter'.leaves)

include same

theorem subjects_of_leaves_eq : filter.subjects = filter'.subjects :=
  congrArg (List.filterMap Leaf.subject?) same

theorem signatures_of_leaves_eq : filter.signatures = filter'.signatures := by
  rw [signatures, subjects_of_leaves_eq same, signatures]

theorem families_of_leaves_eq (resolved : Resolution) :
    filter.families resolved = filter'.families resolved := by
  rw [families, subjects_of_leaves_eq same, families]

theorem directives_of_leaves_eq : filter.directives = filter'.directives :=
  congrArg (List.filterMap Leaf.directive?) same

theorem settled_of_leaves_eq (answer : Except CacheFault Resolution) :
    EndsAlike (filter.settled answer) (filter'.settled answer) := by
  cases answer with
  | error fault => exact .failed _
  | ok resolved =>
    rw [settled, settled, compileResolved_eq, compileResolved_eq, families_of_leaves_eq same,
      directives_of_leaves_eq same, signatures_of_leaves_eq same]
    generalize Leaf.atom resolved (filter'.families resolved) = atom
    have replaced : (filter.traverse atom).map Formula.leaves =
        (filter'.traverse atom).map Formula.leaves := by
      rw [Formula.map_leaves_traverse, Formula.map_leaves_traverse, same]
    cases made : filter.traverse atom <;> cases made' : filter'.traverse atom <;>
      rw [made, made'] at replaced
    · cases replaced
      exact .failed _
    · cases replaced
    · cases replaced
    · exact .compiled ⟨Except.ok.inj replaced, rfl, rfl, rfl⟩

/-- The same step of any cache, a cache that keeps its calls included. -/
private theorem runFrom_compile_of_leaves_eq {σ : Type} [IdCache σ] (cache : σ) :
    EndsAlike (filter.compile.runFrom cache).1 (filter'.compile.runFrom cache).1 ∧
      (filter.compile.runFrom cache).2 = (filter'.compile.runFrom cache).2 := by
  rw [runFrom_compile, runFrom_compile, subjects_of_leaves_eq same, signatures_of_leaves_eq same]
  cases filter'.subjects.forM Tag.check with
  | error fault => exact ⟨.failed _, rfl⟩
  | ok => exact ⟨settled_of_leaves_eq same _, rfl⟩

/-- Filters with the same leaves from left to right fail alike, or are compiled to the same but for
the shape of the predicate, and ask the cache for the same. -/
theorem compile_of_leaves_eq {σ : Type} [IdCache σ] (observed : ObservedCache σ) :
    EndsAlike (filter.compile.runFrom observed.cache).1 (filter'.compile.runFrom observed.cache).1 ∧
      (filter.compile.runFrom observed).2 = (filter'.compile.runFrom observed).2 :=
  ⟨(runFrom_compile_of_leaves_eq same observed.cache).1,
    (runFrom_compile_of_leaves_eq same observed).2⟩

omit same in
/-- Leaves that are joined and negated in two ways. -/
theorem compile_of_leaves_eq_regrouped :
    let filter : Filter := .and (.not (bare "jazz")) (.or (bare "live") (sort "oldest"))
    let filter' : Filter := .not (.or (.and (bare "jazz") (bare "live")) (.not (sort "oldest")))
    let observed : ObservedCache ResidentCache := ⟨⟨⟨[(⟨"jazz"⟩, ⟨1⟩)]⟩, true⟩, []⟩
    filter.leaves = filter'.leaves ∧
      EndsAlike (filter.compile.runFrom observed.cache).1
        (filter'.compile.runFrom observed.cache).1 ∧
      (filter.compile.runFrom observed).2 = (filter'.compile.runFrom observed).2 ∧
      (filter'.compile.runFrom observed).2.history =
        [(observed.cache, .lookupMany [⟨"jazz"⟩, ⟨"live"⟩])] := by
  intro filter filter' observed
  have same : filter.leaves = filter'.leaves := rfl
  obtain ⟨alike, asked⟩ := compile_of_leaves_eq same observed
  exact ⟨same, alike, asked, rfl⟩

end Filter

end TagQuery
