import TagQuery.Catalog.Basic

/-!
What callers do with a catalog.
-/

namespace TagQuery.Catalog

variable {σ ξ : Type} [IdCache σ] [Executor ξ]

/-- Load every stored tag into the cache and count them. -/
def loadCache : Step σ ξ Nat := do
  let records : List StoredTag ← query (← get).schema.listAllTags
  onCache (IdCache.load (records.map fun record => (record.signature, record.id)))
  report (.cacheLoaded (amount records.length))
  return records.length

def compileFilter (filter : Filter) : Step σ ξ CompiledFilter := do
  let compiled ← withCache filter.compile
  let counts := compiled.counts
  report (.compiled (amount counts.signatures) (amount counts.families))
  report (.lookedUp (amount counts.resolved) (amount (counts.signatures - counts.resolved)))
  return compiled

/-- One page of the entities that a filter admits. -/
def listEntities {α : Type} [RowShape α] (filter : Filter) (window : PageWindow) :
    Step σ ξ (Page α) := do
  let compiled ← compileFilter filter
  queryPage ((← get).schema.listEntities compiled window)

/-- One page of the tags that match a query. -/
def listTags (search : Tag) (window : PageWindow) : Step σ ξ (Page TagUsage) := do
  queryPage ((← get).schema.listTags search window)

/-- All tags of one entity. -/
def entityTags (entity : Int64) : Step σ ξ (List TagUsage) := do
  query ((← get).schema.listEntityTags entity)

/-- Offer records to the cache, every one even after a fault, and answer the first fault. -/
def recordAll (records : List StoredTag) : Step σ ξ (Option CacheFault) :=
  records.foldlM (fun first record => do
    let result ← ((IdCache.record record.signature record.id).onPart
      Catalog.cache fun catalog cache => { catalog with cache }).attempt
    match result with
    | .ok () => return first
    | .error fault => return first.or (some fault)) none

/-- Store those of the tags that are not stored yet, and answer the records of these. -/
def createTags (tags : List TagDraft) : Step σ ξ (List StoredTag) := do
  match ← Action.ofExcept (((← get).schema.createTags tags).mapError .ofQuery) with
  | none => return []
  | some prepared =>
    let created ← query prepared
    let refused ← recordAll created
    report (.tagsCreated (amount created.length))
    match refused with
    | none => return created
    | some fault => throw (.ofCache fault)

/-- Attach a tag that the cache knows; false when the entity carried it already. -/
def addTag (entity : Int64) (tag : Tag) : Step σ ξ Bool := do
  let prepared ← withCache ((← get).schema.attachKnown entity tag)
  return 0 < (← write prepared)

/-- Detach a tag; false when the entity did not carry it, as it cannot carry a tag that
the cache does not know. -/
def removeTag (entity : Int64) (tag : Tag) : Step σ ξ Bool := do
  match ← (withCache ((← get).schema.detachKnown entity tag)).attempt with
  | .ok prepared => return 0 < (← write prepared)
  | .error failure => if failure.isUnknownTag then return false else throw failure

/-- Attach the tag that raw text names, after creating it when the cache does not know it. -/
def attachTag (entity : Int64) (raw : String) (type : TagKind) : Step σ ξ Bool := do
  let tag := Tag.parse raw
  let known ← ((IdCache.lookup tag.signature).onPart
    Catalog.cache fun catalog cache => { catalog with cache }).attempt
  match known with
  | .ok _ => pure ()
  | .error (.notFound _) => discard (createTags [{ tag, type }])
  | .error fault => throw (.ofCache fault)
  addTag entity tag

end TagQuery.Catalog
