import TagQuery.Proofs.Activity.Amount
import TagQuery.Proofs.Catalog.Tracks
import TagQuery.Proofs.Listing.Decoded
import TagQuery.Proofs.Listing.Outcome

/-! How the counts of a compiled filter add up, and what a catalog reports of them. -/

namespace TagQuery

namespace Filter

variable {filter : Filter} {resolved : Resolution} {compiled : CompiledFilter}

/-- The families of a filter are its bare tags without an identifier. -/
theorem mem_families_iff {key : String} : key ∈ filter.families resolved ↔
    Tag.bare key ∈ filter.subjects ∧ resolved.get? (Tag.bare key).signature = none := by
  rw [families, List.mem_eraseDups, List.mem_map]
  constructor
  · rintro ⟨⟨_, value⟩, member, rfl⟩
    obtain ⟨inside, family⟩ := List.mem_filter.mp member
    rw [isFamily, Bool.and_eq_true, Option.isNone_iff_eq_none, Option.isNone_iff_eq_none] at family
    obtain ⟨rfl, missing⟩ := family
    exact ⟨inside, missing⟩
  · rintro ⟨inside, missing⟩
    refine ⟨Tag.bare key, List.mem_filter.mpr ⟨inside, ?_⟩, rfl⟩
    rw [isFamily, missing]
    rfl

/-- The valued tags of a compiled filter have identifiers. -/
theorem known_of_compileResolved_ok (made : filter.compileResolved resolved = .ok compiled) :
    ∀ leaf ∈ filter.leaves, ¬ leaf.Unknown resolved := by
  intro leaf member unknown
  obtain ⟨_, _, _, _, _, failed⟩ := settled_of_unknown ⟨leaf, member, unknown⟩
  rw [settled, made] at failed
  cases failed

/-- A signature that a filter tests for has an identifier, or it is that of one family. -/
theorem signatures_perm (distinct : resolved.keys.Nodup) (asked : resolved.keys ⊆ filter.signatures)
    (known : ∀ leaf ∈ filter.leaves, ¬ leaf.Unknown resolved) :
    filter.signatures.Perm (resolved.keys ++
      (filter.families resolved).map fun key => (Tag.bare key).signature) := by
  have missing {key : String} (family : key ∈ filter.families resolved) :
      (Tag.bare key).signature ∉ resolved.keys := by
    rw [← OrderedMap.get?_isSome_iff, (mem_families_iff.mp family).2]
    exact Bool.false_ne_true
  have apart : (resolved.keys ++
      (filter.families resolved).map fun key => (Tag.bare key).signature).Nodup := by
    refine distinct.append ((nodup_eraseDups _).map fun key key' same => ?_) fun name here there => ?_
    · exact congrArg Signature.text same
    · obtain ⟨key, family, rfl⟩ := List.mem_map.mp there
      exact missing family here
  refine (List.perm_ext_iff_of_nodup (nodup_eraseDups _) apart).mpr fun name => ?_
  rw [List.mem_append, List.mem_map]
  constructor
  · intro tested
    obtain ⟨tag, subject, rfl⟩ := List.mem_map.mp (List.mem_eraseDups.mp tested)
    cases found : resolved.get? tag.signature with
    | some id =>
      left
      rw [← OrderedMap.get?_isSome_iff, found]
      rfl
    | none =>
      right
      obtain ⟨leaf, member, tests⟩ := mem_subjects_iff.mp subject
      obtain ⟨key, _ | value⟩ := tag
      · exact ⟨key, mem_families_iff.mpr ⟨subject, found⟩, rfl⟩
      · exact absurd ⟨key, value, tests, found⟩ (known leaf member)
  · rintro (held | ⟨key, family, rfl⟩)
    · exact asked held
    · exact Tag.signature_mem_signatures (mem_families_iff.mp family).1

/-- What the counts and the parameters of a compiled filter say of its leaves, when the cache gave
these identifiers for them. -/
structure CountedBy (filter : Filter) (resolved : Resolution) (compiled : CompiledFilter) : Prop where
  /-- Each signature is counted once, and once more when it has an identifier. -/
  signatures : ∃ names, FirstVisits (filter.subjects.map Tag.signature) names ∧
    compiled.counts.signatures = names.length ∧
    compiled.counts.resolved = names.countP fun name => (resolved.get? name).isSome
  /-- Each key of a bare tag without an identifier is counted once, and the parameter of its number
  holds it. -/
  families : ∃ keys, FirstVisits (filter.leaves.filterMap (Leaf.unresolvedKey? resolved)) keys ∧
    compiled.counts.families = keys.length ∧ compiled.params.size = keys.length ∧
    compiled.params.entries = keys.mapIdx fun index key =>
      ("family_" ++ Number.writeNat index, .text key)
  balance : compiled.counts.signatures = compiled.counts.resolved + compiled.counts.families

theorem countedBy_of_compileResolved_ok (made : filter.compileResolved resolved = .ok compiled)
    (distinct : resolved.keys.Nodup) (asked : resolved.keys ⊆ filter.signatures) :
    filter.CountedBy resolved compiled := by
  obtain ⟨_, _, params, counts⟩ := of_compileResolved_ok made
  have split := signatures_perm distinct asked (known_of_compileResolved_ok made)
  have size : resolved.size = resolved.keys.length := (List.length_map _).symm
  have found : resolved.keys.countP (fun name => (resolved.get? name).isSome) =
      resolved.keys.length :=
    List.countP_eq_length.mpr fun name held => (resolved.get?_isSome_iff name).mpr held
  have absent : ((filter.families resolved).map fun key => (Tag.bare key).signature).countP
      (fun name => (resolved.get? name).isSome) = 0 := by
    refine List.countP_eq_zero.mpr fun name member => ?_
    obtain ⟨key, family, rfl⟩ := List.mem_map.mp member
    rw [(mem_families_iff.mp family).2]
    exact Bool.false_ne_true
  rw [familyParams_eq] at params
  refine {
    signatures := ⟨filter.signatures, firstVisits_eraseDups _, by rw [counts], ?_⟩
    families := ⟨filter.families resolved, ?_, by rw [counts], ?_, by rw [params]; rfl⟩
    balance := ?_ }
  · rw [counts, split.countP_eq, List.countP_append, found, absent, Nat.add_zero]
    exact size
  · rw [families_eq_eraseDups]
    exact firstVisits_eraseDups _
  · rw [params]
    exact List.length_mapIdx
  · rw [counts]
    dsimp only
    rw [split.length_eq, List.length_append, List.length_map, size]

end Filter

/-- What is reported of a compiled filter: there are as many hits and misses as tags, and as many
misses as families. A count that does not fit a word is reported as the largest one. -/
structure CompiledFilter.ReportedAs (compiled : CompiledFilter)
    (tags families hits misses : UInt64) : Prop where
  tags_eq : tags = amount compiled.counts.signatures
  families_eq : families = amount compiled.counts.families
  hits_eq : hits = amount compiled.counts.resolved
  misses_eq : misses = families
  sum : addSaturating hits misses = tags
  /-- The numbers add up too when the tags can be counted by a word. -/
  fits : compiled.counts.signatures < UInt64.size → hits.toNat + misses.toNat = tags.toNat
  /-- No tag is resolved that is not counted. -/
  unclamped : compiled.counts.resolved ≤ compiled.counts.signatures

theorem ResolutionCounts.events_eq {counts : ResolutionCounts}
    (balance : counts.signatures = counts.resolved + counts.families) :
    counts.events = [.compiled (amount counts.signatures) (amount counts.families),
      .lookedUp (amount counts.resolved) (amount counts.families)] := by
  rw [events, balance, Nat.add_sub_cancel_left]

theorem CompiledFilter.reportedAs_amounts {compiled : CompiledFilter}
    (balance : compiled.counts.signatures = compiled.counts.resolved + compiled.counts.families) :
    compiled.ReportedAs (amount compiled.counts.signatures) (amount compiled.counts.families)
      (amount compiled.counts.resolved) (amount compiled.counts.families) where
  tags_eq := rfl
  families_eq := rfl
  hits_eq := rfl
  misses_eq := rfl
  sum := by rw [addSaturating_amount, balance]
  fits few := by
    rw [toNat_amount_of_lt few, toNat_amount_of_lt (by omega), toNat_amount_of_lt (by omega), balance]
  unclamped := by omega

/-- The signatures of a compiled filter are those with an identifier and those of its families, and
a catalog reports them so. -/
theorem Filter.counts_balance {σ : Type} [IdCache σ] [AskedCache σ] {filter : Filter}
    {cache after : σ} {compiled : CompiledFilter}
    (ran : filter.compile.runFrom cache = (.ok compiled, after)) :
    ∃ resolved, (resolve filter.signatures).runFrom cache = (.ok resolved, after) ∧
      filter.CountedBy resolved compiled ∧
      ∀ {ξ : Type} (catalog : Catalog σ ξ), catalog.cache = cache →
        ∃ tags families hits misses, compiled.ReportedAs tags families hits misses ∧
          (Catalog.compileFilter filter).runFrom catalog = (.ok compiled, { catalog with
            cache := after
            events := catalog.events ++ [.compiled tags families, .lookedUp hits misses] }) := by
  obtain ⟨_, resolved, answered, made⟩ := of_compile_ok ran
  have keys : resolved.keys.Nodup ∧ resolved.keys ⊆ filter.signatures := by
    unfold resolve at answered
    split at answered
    · cases answered
      exact ⟨List.nodup_nil, List.nil_subset _⟩
    · exact AskedCache.keys_of_lookupMany answered
  have counted := countedBy_of_compileResolved_ok made keys.1 keys.2
  refine ⟨resolved, answered, counted, fun catalog held => ?_⟩
  refine ⟨_, _, _, _, CompiledFilter.reportedAs_amounts counted.balance, ?_⟩
  rw [Catalog.runFrom_compileFilter, held, ran, ← ResolutionCounts.events_eq counted.balance]

/-- Two families, one of them tested for twice, and a valued tag. -/
def Filter.tallied : Filter :=
  .and (.or (bare "genre") (valued "lang" "en"))
    (.or (.not (bare "mood")) (.and (bare "genre") (sort "oldest")))

def SharedCache.tallied : SharedCache LocalStore :=
  { store := ⟨⟨[("tag:lang:en", "1")]⟩⟩, keyStart := "tag:", ready := true }

theorem Filter.counts_balance_tallied :
    ∃ compiled resolved, tallied.compile.runFrom SharedCache.tallied =
        (.ok compiled, SharedCache.tallied) ∧
      compiled.counts = ⟨3, 1, 2⟩ ∧ tallied.CountedBy resolved compiled ∧
      ∀ {ξ : Type} (catalog : Catalog (SharedCache LocalStore) ξ),
        catalog.cache = SharedCache.tallied → ∃ tags families hits misses,
          compiled.ReportedAs tags families hits misses ∧
          ((Catalog.compileFilter tallied).runFrom catalog).2.events =
            catalog.events ++ [.compiled tags families, .lookedUp hits misses] := by
  obtain ⟨compiled, ran, counts⟩ : ∃ compiled, tallied.compile.runFrom SharedCache.tallied =
      (.ok compiled, SharedCache.tallied) ∧ compiled.counts = ⟨3, 1, 2⟩ := ⟨_, rfl, rfl⟩
  obtain ⟨resolved, _, counted, reports⟩ := counts_balance ran
  refine ⟨compiled, resolved, ran, counts, counted, fun catalog held => ?_⟩
  obtain ⟨tags, families, hits, misses, reported, same⟩ := reports catalog held
  exact ⟨tags, families, hits, misses, reported, by rw [same]⟩

end TagQuery
