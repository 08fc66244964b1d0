import TagQuery.Activity.Event
import TagQuery.Executor.Run
import TagQuery.Listing.Changes
import TagQuery.Schema.Validity

/-!
A catalog of tags and of the entities that carry them, over one executor and one cache.
The cache is written only after the store has taken a tag.
-/

namespace TagQuery

structure Catalog (σ ξ : Type) where
  schema : Schema
  schema_checked : schema.check = .ok ()
  cache : σ
  executor : ξ
  /-- What has happened so far, the latest last. -/
  events : List Event := []

namespace Catalog

variable {σ ξ α : Type}

/-- A catalog on a schema that passes the check. -/
def create (schema : Schema) (cache : σ) (executor : ξ) : Except Failure (Catalog σ ξ) :=
  match checked : schema.check with
  | .ok () => .ok { schema, schema_checked := checked, cache, executor }
  | .error fault => .error (.ofConfig fault)

/-- A step of a catalog. -/
abbrev Step (σ ξ α : Type) := Action Failure (Catalog σ ξ) α

def report (event : Event) : Step σ ξ Unit :=
  modify fun catalog => { catalog with events := catalog.events ++ [event] }

/-- A step on the cache whose failures are already those of callers. -/
def withCache (action : Action Failure σ α) : Step σ ξ α :=
  action.onPart Catalog.cache fun catalog cache => { catalog with cache }

def onCache (action : Action CacheFault σ α) : Step σ ξ α :=
  withCache (action.mapFault .ofCache)

/-- A step on the executor. Every fault is reported once. -/
def onExecutor (action : Action StorageFault ξ α) : Step σ ξ α := do
  let result ← (action.onPart Catalog.executor fun catalog executor =>
    { catalog with executor }).attempt
  match result with
  | .ok answer => return answer
  | .error fault =>
    report .storageFault
    throw (.ofStorage fault)

variable [Executor ξ]

/-- All rows of a prepared statement. -/
def query [RowShape α] (prepared : Prepared) : Step σ ξ (List α) := do
  let schema := (← get).schema
  let items ← onExecutor
    (prepared.statement.fetchAll schema.dialect prepared.params .any)
  report (.queried (amount items.length))
  return items

def queryPage [RowShape α] (prepared : Prepared) : Step σ ξ (Page α) := do
  let schema := (← get).schema
  let page ← onExecutor (prepared.statement.fetchPage schema.dialect prepared.params)
  report (.queried (amount page.items.length))
  return page

/-- The number of rows a prepared statement touched. -/
def write (prepared : Prepared) : Step σ ξ UInt64 := do
  let schema := (← get).schema
  let affected ← onExecutor (prepared.statement.run schema.dialect prepared.params)
  report (.wrote affected)
  return affected

end Catalog

end TagQuery
