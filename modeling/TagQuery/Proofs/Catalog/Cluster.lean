import Mathlib.Logic.Function.Basic
import TagQuery.Proofs.Catalog.Provenance
import TagQuery.Proofs.Catalog.ResidentTables

/-! Catalogs that share one store, each with a cache of its own, and what holds of all of them
however their requests alternate and whatever fails. -/

namespace TagQuery

/-- The catalog on another executor. -/
def Catalog.over {σ ξ ξ' : Type} (catalog : Catalog σ ξ) (executor : ξ') : Catalog σ ξ' where
  schema := catalog.schema
  schema_checked := catalog.schema_checked
  cache := catalog.cache
  executor := executor
  events := catalog.events

/-- Catalogs that take turns on one executor. -/
structure Cluster {ι : Type} (κ : ι → Type) (ξ : Type) where
  executor : ξ
  members : ∀ i, Catalog (κ i) Unit

namespace Cluster

variable {ι ξ : Type} {κ : ι → Type}

/-- A member with the executor that all share. -/
def catalog (cluster : Cluster κ ξ) (i : ι) : Catalog (κ i) ξ :=
  (cluster.members i).over cluster.executor

variable [DecidableEq ι]

/-- The cluster once a member has become another catalog. -/
def replace (cluster : Cluster κ ξ) (i : ι) (after : Catalog (κ i) ξ) : Cluster κ ξ where
  executor := after.executor
  members := Function.update cluster.members i (after.over ())

@[simp] theorem catalog_replace_self (cluster : Cluster κ ξ) (i : ι) (after : Catalog (κ i) ξ) :
    (cluster.replace i after).catalog i = after := by
  simp [replace, catalog, Catalog.over]

theorem catalog_replace_of_ne (cluster : Cluster κ ξ) {i j : ι} (apart : j ≠ i)
    (after : Catalog (κ i) ξ) :
    (cluster.replace i after).catalog j = (cluster.catalog j).over after.executor := by
  simp [replace, catalog, Catalog.over, Function.update_of_ne apart]

variable [∀ i, IdCache (κ i)] [Executor ξ]

/-- The cluster after a request to one of its members. -/
def serve (cluster : Cluster κ ξ) (i : ι) (request : Request) : Cluster κ ξ :=
  cluster.replace i ((cluster.catalog i).serve request)

/-- The cluster after requests to its members, one after another. -/
def run (cluster : Cluster κ ξ) (steps : List (ι × Request)) : Cluster κ ξ :=
  steps.foldl (fun cluster step => cluster.serve step.1 step.2) cluster

variable [∀ i, TruthfulCache (κ i)] {serves : Schema → Prop} {ledger : TagLedger serves ξ}
  {cluster : Cluster κ ξ}

/-- What one member does leaves all of them sound. -/
theorem sound_replace (sound : ∀ i, ledger.Sound (cluster.catalog i)) {i : ι}
    {allowed : Contents → ExecutorCall → Prop} {after : Catalog (κ i) ξ}
    (calls : ∀ contents call, allowed contents call → (cluster.catalog i).schema.Calls call)
    (follows : ledger.Follows allowed (cluster.catalog i) after) (j : ι) :
    ledger.Sound ((cluster.replace i after).catalog j) := by
  by_cases same : j = i
  · subst same
    rw [catalog_replace_self]
    exact follows.sound
  · have advances := ledger.advances_of_callsLead (sound i).served calls follows.led
    rw [catalog_replace_of_ne cluster same]
    exact ⟨(sound j).served, follows.sound.wellKept,
      BoundedCache.onlyHolds_imp advances.names (sound j).cached⟩

theorem sound_serve (sound : ∀ i, ledger.Sound (cluster.catalog i)) (i : ι) (request : Request)
    (j : ι) : ledger.Sound ((cluster.serve i request).catalog j) :=
  sound_replace sound (fun _ _ makes => makes.calls) (ledger.follows_serve (sound i) request) j

theorem sound_run (sound : ∀ i, ledger.Sound (cluster.catalog i)) (steps : List (ι × Request))
    (j : ι) : ledger.Sound ((cluster.run steps).catalog j) := by
  induction steps generalizing cluster with
  | nil => exact sound j
  | cons step rest ih => exact ih (sound_serve sound step.1 step.2)

theorem schema_run (sound : ∀ i, ledger.Sound (cluster.catalog i)) (steps : List (ι × Request))
    (j : ι) : ((cluster.run steps).catalog j).schema = (cluster.catalog j).schema := by
  induction steps generalizing cluster with
  | nil => rfl
  | cons step rest ih =>
    obtain ⟨i, request⟩ := step
    refine (ih (sound_serve sound i request)).trans ?_
    by_cases same : j = i
    · subst same
      rw [serve, catalog_replace_self]
      exact (ledger.follows_serve (sound j) request).schema_eq
    · rw [serve, catalog_replace_of_ne cluster same]
      rfl

omit [DecidableEq ι] in
/-- Empty caches on a well kept store are sound. -/
theorem sound_of_empty (served : ∀ i, serves (cluster.members i).schema)
    (wellKept : (ledger.contents cluster.executor).WellKept)
    (empty : ∀ i, BoundedCache.HoldsNothing (cluster.members i).cache) (i : ι) :
    ledger.Sound (cluster.catalog i) :=
  ⟨served i, wellKept, BoundedCache.onlyHolds_imp (fun _ _ => False.elim) (empty i)⟩

/-- One member caches in the process and one in a store that refuses keys. -/
def MixedCache : Bool → Type
  | false => ResidentCache
  | true => SharedCache UnreliableStore

instance : ∀ shared, IdCache (MixedCache shared)
  | false => inferInstanceAs (IdCache ResidentCache)
  | true => inferInstanceAs (IdCache (SharedCache UnreliableStore))

instance : ∀ shared, TruthfulCache (MixedCache shared)
  | false => inferInstanceAs (TruthfulCache ResidentCache)
  | true => inferInstanceAs (TruthfulCache (SharedCache UnreliableStore))

/-- A catalog on the usual names whose executor is elsewhere. -/
def memberOn {σ : Type} (cache : σ) : Catalog σ Unit where
  schema := {}
  schema_checked := Schema.check_usual
  cache := cache
  executor := ()

/-- Two catalogs on empty tables, of which one has a cache that refuses a key, and an executor
that loses the answer of its third call. -/
def mixed : Cluster MixedCache (Observed (Faulty ResidentTables)) where
  executor := { executor := { executor := {}, mishaps := [none, none, some .afterwards] } }
  members
    | false => memberOn (ResidentCache.mk .empty false)
    | true => memberOn { store := { refusesSet := (· = "tag:x") }, keyStart := "tag:" }

/-- A tag is created and its identifier refused, and then the other catalog learns it. -/
def mixedSteps : List (Bool × Request) :=
  [(true, .command (.createTags [⟨.bare "x", .ordinary⟩])), (false, .command .loadCache)]

end Cluster

end TagQuery
