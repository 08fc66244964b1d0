import TagQuery.Proofs.Catalog.Mirrored
import TagQuery.Proofs.Failure
import TagQuery.Proofs.IdCache.Batches
import TagQuery.Proofs.List.First
import TagQuery.Proofs.Listing.Compiled

/-! Which leaf of a filter decides that it is refused, and what the cache is asked before. -/

namespace TagQuery

theorem Leaf.atom_of_unknown {resolved : Resolution} {families : List String} {leaf : Leaf}
    {key value : String} (tests : leaf.Tests (.valued key value))
    (missing : resolved.get? (Tag.valued key value).signature = none) :
    leaf.atom resolved families = .error (.unknownTag (Tag.valued key value).signature) := by
  simp only [atom, subject?_eq_some_iff.mpr tests, missing]
  rfl

theorem Leaf.exists_atom {resolved : Resolution} {leaf : Leaf} (known : ¬ leaf.Unknown resolved)
    (families : List String) : ∃ atom, leaf.atom resolved families = .ok atom := by
  unfold atom
  cases subject : leaf.subject? with
  | none => exact ⟨_, rfl⟩
  | some tag =>
    dsimp only
    cases found : resolved.get? tag.signature with
    | some id => exact ⟨_, rfl⟩
    | none =>
      obtain ⟨key, _ | value⟩ := tag
      · exact ⟨_, rfl⟩
      · exact absurd ⟨key, value, subject?_eq_some_iff.mp subject, found⟩ known

namespace Filter

variable {filter : Filter} {resolved : Resolution}

theorem mem_subjects_iff {tag : Tag} :
    tag ∈ filter.subjects ↔ ∃ leaf ∈ filter.leaves, leaf.Tests tag := by
  simp only [subjects, List.mem_filterMap, Leaf.subject?_eq_some_iff]

/-- All tags pass their check when no leaf is invalid. -/
theorem check_subjects_of_valid (valid : ∀ leaf ∈ filter.leaves, ¬ leaf.Invalid) :
    filter.subjects.forM Tag.check = .ok () := by
  refine Outcome.forM_ok_iff.mpr fun tag member => Tag.check_of_flawless fun flaw flawed => ?_
  obtain ⟨leaf, inside, tests⟩ := mem_subjects_iff.mp member
  exact valid leaf inside ⟨tag, flaw, tests, flawed⟩

/-- Otherwise the tag of the first invalid leaf is reported. -/
theorem check_subjects_of_invalid (some : ∃ leaf ∈ filter.leaves, leaf.Invalid) :
    ∃ leaf tag flaw, FirstOf Leaf.Invalid filter.leaves leaf ∧ leaf.Tests tag ∧ tag.HasFlaw flaw ∧
      filter.subjects.forM Tag.check = .error (.invalidTag tag.key flaw.message) := by
  obtain ⟨leaf, first⟩ := exists_firstOf some
  have ⟨before, after, split, ⟨tag, flaw, tests, flawed⟩, valid⟩ := first
  refine ⟨leaf, tag, flaw, first, tests, flawed, ?_⟩
  rw [subjects, split, List.filterMap_append,
    List.filterMap_cons_some (Leaf.subject?_eq_some_iff.mpr tests)]
  refine Outcome.forM_error (fun earlier member => ?_) (Tag.check_of_hasFlaw flawed) _
  obtain ⟨other, inside, subject⟩ := List.mem_filterMap.mp member
  exact Tag.check_of_flawless fun flaw flawed =>
    valid other inside ⟨earlier, flaw, Leaf.subject?_eq_some_iff.mp subject, flawed⟩

/-- A filter is compiled when all of its valued tags have identifiers. -/
theorem settled_of_known (known : ∀ leaf ∈ filter.leaves, ¬ leaf.Unknown resolved) :
    ∃ compiled, filter.settled (.ok resolved) = .ok compiled := by
  obtain ⟨atoms, replaced⟩ := Outcome.exists_mapM_ok fun leaf member =>
    Leaf.exists_atom (known leaf member) (filter.families resolved)
  rw [← Formula.map_leaves_traverse] at replaced
  obtain ⟨predicate, traversed, _⟩ := Outcome.of_map_ok replaced
  rw [settled, compileResolved_eq, traversed]
  exact ⟨_, rfl⟩

/-- Otherwise the tag of the first unknown leaf is reported. -/
theorem settled_of_unknown (some : ∃ leaf ∈ filter.leaves, leaf.Unknown resolved) :
    ∃ leaf key value, FirstOf (Leaf.Unknown resolved) filter.leaves leaf ∧
      leaf.Tests (.valued key value) ∧ filter.settled (.ok resolved) =
        .error (.ofQuery (.unknownTag (Tag.valued key value).signature)) := by
  obtain ⟨leaf, first⟩ := exists_firstOf some
  have ⟨before, after, split, ⟨key, value, tests, missing⟩, known⟩ := first
  refine ⟨leaf, key, value, first, tests, ?_⟩
  have stopped : filter.leaves.mapM (Leaf.atom resolved (filter.families resolved)) =
      .error (.unknownTag (Tag.valued key value).signature) := by
    rw [split]
    exact Outcome.mapM_error (fun earlier member => Leaf.exists_atom (known earlier member) _)
      (Leaf.atom_of_unknown tests missing) after
  rw [← Formula.map_leaves_traverse, Outcome.map_error_iff] at stopped
  rw [settled, compileResolved_eq, stopped]
  rfl

theorem signatures_eq_nil_iff :
    filter.signatures = [] ↔ ∀ leaf ∈ filter.leaves, ∀ tag, ¬ leaf.Tests tag := by
  rw [List.eq_nil_iff_forall_not_mem]
  simp only [signatures, List.mem_eraseDups, List.mem_map, mem_subjects_iff]
  constructor
  · intro none leaf inside tag tests
    exact none tag.signature ⟨tag, ⟨leaf, inside, tests⟩, rfl⟩
  · rintro none _ ⟨tag, ⟨leaf, inside, tests⟩, _⟩
    exact none leaf inside tag tests

end Filter

/-- What a filter without an invalid leaf comes to when the cache was asked for its signatures. -/
structure Filter.SettledBy (filter : Filter) (answer : Except CacheFault Resolution)
    (result : Except Failure CompiledFilter) : Prop where
  /-- A fault of the cache is reported as it is. -/
  faulty : ∀ fault, answer = .error fault → result = .error (.ofCache fault) ∧
    (fault.isNotFound = false → (Failure.ofCache fault).kind = .unavailable ∧
      (Failure.ofCache fault).cause = some (.cache fault))
  /-- The first leaf for a valued tag without an identifier is reported. -/
  unknown : ∀ resolved, answer = .ok resolved → (∃ leaf ∈ filter.leaves, leaf.Unknown resolved) →
    ∃ leaf key value, FirstOf (Leaf.Unknown resolved) filter.leaves leaf ∧
      leaf.Tests (.valued key value) ∧
      result = .error (.ofQuery (.unknownTag (Tag.valued key value).signature))
  known : ∀ resolved, answer = .ok resolved → (∀ leaf ∈ filter.leaves, ¬ leaf.Unknown resolved) →
    ∃ compiled, result = .ok compiled
  /-- A tag is unknown by a leaf for a valued tag, unless the cache itself says that it is. -/
  valued : ∀ failure, result = .error failure → failure.isUnknownTag →
    (∃ leaf ∈ filter.leaves, ∃ key value, leaf.Tests (.valued key value) ∧
      failure = .ofQuery (.unknownTag (Tag.valued key value).signature)) ∨
    ∃ name, answer = .error (.notFound name)

private theorem Filter.settledBy (filter : Filter) (answer : Except CacheFault Resolution) :
    filter.SettledBy answer (filter.settled answer) := by
  cases answer with
  | error fault =>
    refine ⟨?_, nofun, nofun, ?_⟩
    · rintro _ ⟨⟩
      refine ⟨rfl, fun infrastructure => ?_⟩
      rw [Failure.ofCache_of_infrastructure infrastructure]
      exact ⟨rfl, rfl⟩
    · rintro _ ⟨⟩ unknown
      rw [Failure.isUnknownTag_ofCache] at unknown
      obtain ⟨name, rfl⟩ := CacheFault.of_isNotFound unknown
      exact .inr ⟨name, rfl⟩
  | ok resolved =>
    refine ⟨nofun, ?_, ?_, ?_⟩
    · rintro _ ⟨⟩
      exact settled_of_unknown
    · rintro _ ⟨⟩
      exact settled_of_known
    · intro failure failed _
      left
      by_cases some : ∃ leaf ∈ filter.leaves, leaf.Unknown resolved
      · obtain ⟨leaf, key, value, first, tests, same⟩ := settled_of_unknown some
        exact ⟨leaf, first.mem, key, value, tests, Except.error.inj (failed.symm.trans same)⟩
      · obtain ⟨compiled, made⟩ :=
          settled_of_known fun leaf member unknown => some ⟨leaf, member, unknown⟩
        cases failed.symm.trans made

/-- What compiling a filter comes to, and what it does to a cache that keeps its calls. -/
structure Filter.CompilesTo {σ : Type} [IdCache σ] (filter : Filter) (observed : ObservedCache σ)
    (result : Except Failure CompiledFilter) (later : ObservedCache σ) : Prop where
  /-- The calls are kept for the statement only. -/
  plain : filter.compile.runFrom observed.cache = (result, later.cache)
  /-- The first invalid leaf is reported, and the cache is not asked. -/
  invalid : (∃ leaf ∈ filter.leaves, leaf.Invalid) → later = observed ∧
    ∃ leaf tag flaw, FirstOf Leaf.Invalid filter.leaves leaf ∧ leaf.Tests tag ∧ tag.HasFlaw flaw ∧
      result = .error (.ofQuery (.invalidTag tag.key flaw.message))
  /-- A filter that tests for no tag is compiled without asking the cache. -/
  untagged : (∀ leaf ∈ filter.leaves, ∀ tag, ¬ leaf.Tests tag) →
    later = observed ∧ ∃ compiled, result = .ok compiled
  /-- Otherwise the cache is asked once. -/
  tagged : (∀ leaf ∈ filter.leaves, ¬ leaf.Invalid) →
    (∃ leaf ∈ filter.leaves, ∃ tag, leaf.Tests tag) →
    ∃ signatures, FirstVisits (filter.subjects.map Tag.signature) signatures ∧
      later = observed.after (.lookupMany signatures) ∧
      filter.SettledBy ((IdCache.lookupMany signatures).runFrom observed.cache).1 result
  /-- No leaf for a bare tag and no leaf that asks for an order makes a tag unknown. -/
  valued : IdCache.OmitsAbsent σ → ∀ failure, result = .error failure → failure.isUnknownTag →
    ∃ leaf ∈ filter.leaves, ∃ key value, leaf.Tests (.valued key value) ∧
      failure = .ofQuery (.unknownTag (Tag.valued key value).signature)

namespace Filter

variable {σ : Type} [IdCache σ]

/-- A filter whose tags pass their check leaves the rest to the cache. -/
private theorem runFrom_compile_of_valid {filter : Filter} (observed : ObservedCache σ)
    (valid : ∀ leaf ∈ filter.leaves, ¬ leaf.Invalid) : filter.compile.runFrom observed =
      if filter.signatures = [] then (filter.settled (.ok .empty), observed)
      else (filter.settled ((IdCache.lookupMany filter.signatures).runFrom observed.cache).1,
        observed.after (.lookupMany filter.signatures)) := by
  rw [runFrom_compile, check_subjects_of_valid valid, resolve]
  by_cases none : filter.signatures = []
  · rw [if_pos none, if_pos none]
    rfl
  · rw [if_neg none, if_neg none, ObservedCache.runFrom_lookupMany]

/-- Which of its leaves a filter is refused for, and whether the cache was asked before. -/
theorem compile_outcome (filter : Filter) (observed : ObservedCache σ) :
    filter.CompilesTo observed (filter.compile.runFrom observed).1
      (filter.compile.runFrom observed).2 where
  plain := filter.mirrors_compile (ObservedCache.view σ) observed
  invalid some := by
    obtain ⟨leaf, tag, flaw, first, tests, flawed, failed⟩ := check_subjects_of_invalid some
    rw [runFrom_compile, failed]
    exact ⟨rfl, leaf, tag, flaw, first, tests, flawed, rfl⟩
  untagged none := by
    have valid : ∀ leaf ∈ filter.leaves, ¬ leaf.Invalid :=
      fun leaf member ⟨tag, _, tests, _⟩ => none leaf member tag tests
    rw [runFrom_compile_of_valid observed valid, if_pos (signatures_eq_nil_iff.mpr none)]
    exact ⟨rfl, (filter.settledBy (.ok .empty)).known _ rfl
      fun leaf member ⟨_, _, tests, _⟩ => none leaf member _ tests⟩
  tagged valid some := by
    have asks : filter.signatures ≠ [] := by
      obtain ⟨leaf, member, tag, tests⟩ := some
      exact fun none => signatures_eq_nil_iff.mp none leaf member tag tests
    rw [runFrom_compile_of_valid observed valid, if_neg asks]
    exact ⟨filter.signatures, firstVisits_eraseDups _, rfl, filter.settledBy _⟩
  valued omits failure failed unknown := by
    by_cases some : ∃ leaf ∈ filter.leaves, leaf.Invalid
    · obtain ⟨_, tag, flaw, _, _, _, refused⟩ := check_subjects_of_invalid some
      rw [runFrom_compile, refused] at failed
      cases failed
      cases unknown
    · have valid : ∀ leaf ∈ filter.leaves, ¬ leaf.Invalid :=
        fun leaf member invalid => some ⟨leaf, member, invalid⟩
      rw [runFrom_compile_of_valid observed valid] at failed
      by_cases none : filter.signatures = []
      · rw [if_pos none] at failed
        exact ((filter.settledBy (.ok .empty)).valued failure failed unknown).resolve_right
          fun ⟨_, absent⟩ => nomatch absent
      · rw [if_neg none] at failed
        exact ((filter.settledBy _).valued failure failed unknown).resolve_right
          fun ⟨name, absent⟩ => omits _ _ name absent

/-- A bad tag is reported before one that is not known, and before a cache that is not ready. -/
example : (Filter.compile (.or (valued "person" "carol") (.not (bare "a:b")))).runFrom
    (⟨{}, []⟩ : ObservedCache ResidentCache) =
      (.error (.ofQuery (.invalidTag "a:b" "key contains ':'")), ⟨{}, []⟩) := by
  rfl

end Filter

end TagQuery
