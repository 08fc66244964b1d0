import TagQuery.Proofs.Catalog.Cluster

/-! What a detachment that succeeds leaves of a pair, when several catalogs change one store. -/

namespace TagQuery

/-- In a well kept store an entity does not carry a tag that was detached by its identifier. -/
theorem Contents.not_carriesSome_detach {contents : Contents} (kept : contents.WellKept)
    (entity : Int64) {tag : Tag} {id : TagId} (identifies : contents.Identifies tag id) :
    ¬ (contents.detach entity id).CarriesSome entity fun record => record.tag = tag := by
  rintro ⟨record, member, same, carried⟩
  have other : contents.Identifies tag record.id := ⟨record, member, same, rfl⟩
  rw [other.unique kept identifies] at carried
  simpa using (List.mem_filter.mp carried).2

namespace Catalog

/-- A resident cache that does not know a tag has no entry for it. -/
theorem of_resolved_unknown {ξ : Type} {catalog after : Catalog ResidentCache ξ} {tag : Tag}
    {failure : Failure} (resolved : catalog.Resolved tag (.error failure, after))
    (unknown : failure.isUnknownTag = true) :
    after.executor = catalog.executor ∧ catalog.cache.entries.get? tag.signature = none := by
  cases resolved with
  | invalid refused =>
    unfold Tag.check at refused
    split at refused
    · cases refused
    · cases refused
      cases unknown
  | unknown _ asked =>
    rw [ResidentCache.runFrom_lookup] at asked
    refine ⟨rfl, ?_⟩
    cases held : catalog.cache.entries.get? tag.signature with
    | none => rfl
    | some id =>
      cases ready : catalog.cache.ready
      · simp only [ready, Bool.false_eq_true, ↓reduceIte, Prod.mk.injEq, Except.error.injEq] at asked
        obtain ⟨rfl, _⟩ := asked
        cases unknown
      · simp [ready, held] at asked

variable {σ ξ : Type} [IdCache σ] [TruthfulCache σ] [Executor ξ] {schema : Schema}
  {store : TagStore schema ξ} {catalog middle after : Catalog σ ξ} {tag : Tag}

/-- A detachment that was run took the tag from the entity. -/
theorem not_carriesSome_of_written (sound : store.ledger.Sound catalog) {entity : Int64}
    {id : TagId} {count : UInt64} (resolved : catalog.Resolved tag (.ok id, middle))
    (written : middle.Written (catalog.schema.detach entity id) (.ok count, after)) :
    ¬ (store.contents after.executor).CarriesSome entity fun record => record.tag = tag := by
  have follows : store.ledger.Follows (fun _ _ => False) catalog middle :=
    .of_resolved sound resolved
  have identifies := TagLedger.identifies_of_resolved sound resolved
  obtain rfl : catalog.schema = schema := sound.served
  cases written with
  | done binds executed =>
    rw [follows.schema_eq] at binds
    obtain ⟨executor, ran, detached⟩ := store.detach middle.executor binds
    rw [executed, Prod.mk.injEq] at ran
    obtain ⟨_, rfl⟩ := ran
    dsimp only
    rw [detached]
    exact Contents.not_carriesSome_detach follows.sound.wellKept entity identifies

end Catalog

namespace Cluster

variable {ι ξ : Type} [DecidableEq ι] [Executor ξ] {schema : Schema} {store : TagStore schema ξ}
  {cluster : Cluster (fun _ : ι => ResidentCache) ξ}

/-- Catalogs start with empty caches in their processes on one store that never fails. Whatever
they did before, an entity still carries a tag after a detachment that succeeded exactly when it
carried the tag before and the cache of the catalog has no entry for it: another catalog stored
the tag since. -/
theorem carries_after_removeTag_iff (same : ∀ i, (cluster.members i).schema = schema)
    (wellKept : (store.contents cluster.executor).WellKept)
    (empty : ∀ i, BoundedCache.HoldsNothing (cluster.members i).cache)
    (steps : List (ι × Request)) {i : ι} {entity : Int64} {tag : Tag} {changed : Bool}
    {after : Catalog ResidentCache ξ}
    (ran : (Catalog.removeTag entity tag).runFrom ((cluster.run steps).catalog i) =
      (.ok changed, after)) :
    (store.contents after.executor).CarriesSome entity (fun record => record.tag = tag) ↔
      (store.contents (cluster.run steps).executor).CarriesSome entity
        (fun record => record.tag = tag) ∧
      ((cluster.run steps).members i).cache.entries.get? tag.signature = none := by
  have start : ∀ i, store.ledger.Sound (cluster.catalog i) := sound_of_empty same wellKept empty
  have ended := Catalog.removed ((cluster.run steps).catalog i) entity tag
  rw [ran] at ended
  cases ended with
  | unknown resolved unknown =>
    obtain ⟨executor, missing⟩ := Catalog.of_resolved_unknown resolved unknown
    rw [executor]
    exact ⟨fun carried => ⟨carried, missing⟩, fun carried => carried.1⟩
  | written resolved written =>
    have gone := Catalog.not_carriesSome_of_written (sound_run start steps i) resolved written
    have held : ((cluster.run steps).members i).cache.entries.get? tag.signature ≠ none := by
      cases resolved with
      | known _ asked =>
        have entry := TruthfulCache.entry?_of_lookup asked
        exact Option.ne_none_iff_exists'.mpr ⟨_, entry⟩
    exact ⟨fun carried => absurd carried gone, fun carried => absurd carried.2 held⟩

/-- Two catalogs with caches in their processes, on tables of the usual names. -/
def pairOn (contents : Contents) : Cluster (fun _ : Bool => ResidentCache) ResidentTables where
  executor := ⟨contents⟩
  members _ := memberOn {}

/-- What comes of taking a tag away from an entity in one of the two catalogs after requests. -/
def removed (contents : Contents) (steps : List (Bool × Request)) :
    Except Failure Bool × Catalog ResidentCache ResidentTables :=
  (Catalog.removeTag 1 (.bare "x")).runFrom (((pairOn contents).run steps).catalog false)

def attachedBefore : Contents where
  tags := [⟨⟨1⟩, "x", none, .ordinary⟩]
  pairs := [(1, ⟨1⟩)]

/-- A catalog that loads its cache after the tag was stored takes it away. -/
theorem carries_after_removeTag_attachedBefore :
    (removed attachedBefore [(false, .command .loadCache)]).1 = .ok true ∧
    ¬ (ResidentTables.tagStore.contents
        (removed attachedBefore [(false, .command .loadCache)]).2.executor).CarriesSome 1
      fun record => record.tag = .bare "x" := by
  have wellKept : attachedBefore.WellKept := ⟨List.nodup_singleton _, by decide +kernel⟩
  have left : (removed attachedBefore [(false, .command .loadCache)]).1 = .ok true ∧
      (((pairOn attachedBefore).run [(false, .command .loadCache)]).members
        false).cache.entries.get? (Tag.bare "x").signature ≠ none := by
    decide +kernel
  have ran : removed attachedBefore [(false, .command .loadCache)] =
      (.ok true, (removed attachedBefore [(false, .command .loadCache)]).2) :=
    (Prod.eta _).symm.trans (congrArg (·, _) left.1)
  have emptied := @carries_after_removeTag_iff _ _ _ _ _ ResidentTables.tagStore
    (pairOn attachedBefore) (fun _ => rfl) wellKept (fun _ => ⟨nofun, nofun⟩) _ _ _ _ _ _ ran
  exact ⟨left.1, fun carried => left.2 (emptied.mp carried).2⟩

/-- Both load their caches, and then one attaches a tag. -/
def attachedSince : List (Bool × Request) :=
  [(false, .command .loadCache), (true, .command .loadCache),
   (true, .command (.attachTag 1 "x" .ordinary))]

/-- A catalog that loaded its cache before another stored and attached a tag answers that there
was nothing to take away, and the entity carries the tag. -/
theorem carries_after_removeTag_attachedSince :
    (removed {} attachedSince).1 = .ok false ∧
    (ResidentTables.tagStore.contents (removed {} attachedSince).2.executor).CarriesSome 1
      fun record => record.tag = .bare "x" := by
  have left : (removed {} attachedSince).1 = .ok false ∧
      StoredTag.mk ⟨1⟩ "x" none .ordinary ∈
        (ResidentTables.tagStore.contents (removed {} attachedSince).2.executor).tags ∧
      (1, TagId.mk 1) ∈
        (ResidentTables.tagStore.contents (removed {} attachedSince).2.executor).pairs := by
    decide +kernel
  exact ⟨left.1, _, left.2.1, rfl, left.2.2⟩

end Cluster

end TagQuery
