import TagQuery.Activity.Tally
import TagQuery.Data.Json.Reader
import TagQuery.Data.Json.Writer
import TagQuery.Exchange.Fields
import TagQuery.Number.Decimal
import TagQuery.Row.Page
import TagQuery.Tag.Basic

/-!
Tags, pages and tallies in JSON, for exchange with other programs.
-/

namespace TagQuery

/-- Types that can be written as JSON. -/
class ToJsonText (α : Type) where
  toJsonText : α → String

export ToJsonText (toJsonText)

instance : ToJsonText String := ⟨Json.text⟩

instance : ToJsonText Int64 := ⟨Number.writeInt64⟩

instance : ToJsonText UInt32 := ⟨fun value => Number.writeNat value.toNat⟩

instance : ToJsonText UInt64 := ⟨fun value => Number.writeNat value.toNat⟩

instance {α : Type} [ToJsonText α] : ToJsonText (Option α) where
  toJsonText
    | none => "null"
    | some value => toJsonText value

instance {α : Type} [ToJsonText α] : ToJsonText (List α) where
  toJsonText items := Json.array (items.map toJsonText)

instance : OfData TagId where
  ofData? data := (OfData.ofData? data).map TagId.mk

instance : ToJsonText TagId := ⟨fun id => toJsonText id.value⟩

instance : OfData TagKind where
  ofData? data := (OfData.ofData? data).map TagKind.mk

instance : ToJsonText TagKind := ⟨fun type => toJsonText type.name⟩

instance : OfData Tag where
  ofData? data := do
    let fields ← data.fields? ["key", "value"]
    return { key := ← required fields "key", value := ← optional fields "value" }

instance : ToJsonText Tag where
  toJsonText tag := Json.object [("key", toJsonText tag.key), ("value", toJsonText tag.value)]

instance : OfData StoredTag where
  ofData? data := do
    let fields ← data.fields? ["id", "key", "value", "tag_type"]
    return {
      id := ← required fields "id"
      key := ← required fields "key"
      value := ← optional fields "value"
      type := ← required fields "tag_type" }

instance : ToJsonText StoredTag where
  toJsonText record := Json.object [
    ("id", toJsonText record.id), ("key", toJsonText record.key),
    ("value", toJsonText record.value), ("tag_type", toJsonText record.type)]

instance : OfData TagUsage where
  ofData? data := do
    let fields ← data.fields? ["record", "usage_count"]
    return { record := ← required fields "record", count := ← required fields "usage_count" }

instance : ToJsonText TagUsage where
  toJsonText usage := Json.object [
    ("record", toJsonText usage.record), ("usage_count", toJsonText usage.count)]

instance : OfData PageWindow where
  ofData? data := do
    let fields ← data.fields? ["limit", "offset"]
    return { limit := ← required fields "limit", offset := ← required fields "offset" }

instance : ToJsonText PageWindow where
  toJsonText window := Json.object [
    ("limit", toJsonText window.limit), ("offset", toJsonText window.offset)]

instance {α : Type} [OfData α] : OfData (Page α) where
  ofData? data := do
    let fields ← data.fields? ["items", "total"]
    return { items := ← required fields "items", total := ← required fields "total" }

instance {α : Type} [ToJsonText α] : ToJsonText (Page α) where
  toJsonText page := Json.object [
    ("items", toJsonText page.items), ("total", toJsonText page.total)]

/-- The names of the totals in the order in which they are written. -/
def Tally.names : List String :=
  ["compiles", "tag_refs", "family_fallbacks", "cache_hits", "cache_misses",
   "cache_warm_entries", "queries", "writes", "rows_returned", "rows_affected",
   "storage_faults", "tags_created"]

def Tally.totals (tally : Tally) : List UInt64 :=
  [tally.compiles, tally.tags, tally.families, tally.cacheHits, tally.cacheMisses,
   tally.cacheLoadedEntries, tally.queries, tally.writes, tally.rowsReturned,
   tally.rowsAffected, tally.storageFaults, tally.tagsCreated]

instance : OfData Tally where
  ofData? data := do
    let fields ← data.fields? Tally.names
    return {
      compiles := ← required fields "compiles"
      tags := ← required fields "tag_refs"
      families := ← required fields "family_fallbacks"
      cacheHits := ← required fields "cache_hits"
      cacheMisses := ← required fields "cache_misses"
      cacheLoadedEntries := ← required fields "cache_warm_entries"
      queries := ← required fields "queries"
      writes := ← required fields "writes"
      rowsReturned := ← required fields "rows_returned"
      rowsAffected := ← required fields "rows_affected"
      storageFaults := ← required fields "storage_faults"
      tagsCreated := ← required fields "tags_created" }

instance : ToJsonText Tally where
  toJsonText tally := Json.object (Tally.names.zip (tally.totals.map toJsonText))

/-- A tally as it is handed to others. -/
structure TallyReport where
  totals : Tally

instance : OfData TallyReport where
  ofData? data := do
    let fields ← data.fields? ["ops"]
    return { totals := ← required fields "ops" }

instance : ToJsonText TallyReport where
  toJsonText report := Json.object [("ops", toJsonText report.totals)]

/-- Read a value from a JSON document. -/
def readJson? {α : Type} [OfData α] (document : String) : Option α :=
  Json.read? document >>= OfData.ofData?

end TagQuery
