import TagQuery.Listing.Compiled
import TagQuery.Row.Page
import TagQuery.Statement.Pattern

/-!
The statements that list entities and tags. In all of them `e` is the entity table, `t`
the tag table and `et` the association table.
-/

namespace TagQuery

/-- A statement and the values of the parameters it names. -/
structure Prepared where
  statement : Statement
  params : Params
deriving DecidableEq, Repr

/-- The number of all matches, on every row. -/
def totalItem : String := "COUNT(*) OVER() AS " ++ totalColumn

def tagColumns : List String := ["id", "key", "value", "type"]

/-- The columns of a tag as a listing of tags selects them. -/
def tagItems : List String := tagColumns.map ("t." ++ ·)

def columnOrder (expression : String) (direction : Direction) : OrderItem :=
  { key := .column expression, direction := some direction }

/-- Tags by key, and the bare tag of a key before its valued ones. -/
def tagOrder : List OrderItem :=
  [columnOrder "t.key" .ascending,
   { columnOrder "t.value" .ascending with nulls := some .first }]

/-- Add the parameters of a page to those of the listing. -/
def Params.withWindow (params : Params) (window : PageWindow) : Params :=
  (params.insert "limit" (.ofUInt32 window.limit)).insert "offset" (.ofUInt32 window.offset)

/-- The association table under a short name, joined where its column equals a key. -/
def AssociationTable.join (association : AssociationTable) (kind : JoinKind)
    (short key column : String) : Join :=
  { kind
    table := association.table ++ " " ++ short
    condition := key ++ " = " ++ short ++ "." ++ column }

namespace Schema

/-- One page of the entities that satisfy a compiled filter, a group of association rows
for each. -/
def listEntities (schema : Schema) (compiled : CompiledFilter) (window : PageWindow) :
    Prepared where
  statement := .select {
    columns := schema.entity.columns.map ("e." ++ ·) ++ [totalItem]
    source := schema.entity.table ++ " e"
    joins := [schema.association.join .left "et" ("e." ++ schema.entity.idColumn)
      schema.association.entityColumn]
    grouping := some ("e." ++ schema.entity.idColumn)
    groupCondition := some (compiled.predicate.text schema)
    order := compiled.order.orderItems schema.entity
    limit := some (.parameter "limit")
    offset := some (.parameter "offset") }
  params := compiled.params.withWindow window

/-- What a search for tags compares: the key of a bare query, or the value under the exact
key of a valued one. -/
def tagCondition (schema : Schema) (query : Tag) : String :=
  let operator := schema.dialect.matchOperator
  match query.value with
  | none => "t.key " ++ operator ++ " $key_pattern ESCAPE '\\'"
  | some _ => "t.key = $tag_key AND t.value " ++ operator ++ " $value_pattern ESCAPE '\\'"

def tagConditionParams (query : Tag) : Params :=
  match query.value with
  | none => .ofList [("key_pattern", .text (Pattern.containing query.key))]
  | some value =>
    .ofList [("tag_key", .text query.key), ("value_pattern", .text (Pattern.containing value))]

/-- One page of the tags that match a query, the most used first. -/
def listTags (schema : Schema) (query : Tag) (window : PageWindow) : Prepared where
  statement := .select {
    columns := tagItems ++
      ["COUNT(et." ++ schema.association.entityColumn ++ ") AS usage_count", totalItem]
    source := schema.tags.table ++ " t"
    joins := [schema.association.join .left "et" "t.id" schema.association.tagColumn]
    condition := some (schema.tagCondition query)
    grouping := some "t.id"
    order := columnOrder "usage_count" .descending :: tagOrder
    limit := some (.parameter "limit")
    offset := some (.parameter "offset") }
  params := (tagConditionParams query).withWindow window

def entityParams (entity : Int64) : Params :=
  .ofList [("entity_id", .integer entity)]

/-- The tags of one entity, each with the number of all entities that carry it. -/
def listEntityTags (schema : Schema) (entity : Int64) : Prepared where
  statement := .select {
    columns := tagItems ++
      ["COUNT(uc." ++ schema.association.entityColumn ++ ") AS usage_count"]
    source := schema.tags.table ++ " t"
    joins := [schema.association.join .inner "et" "t.id" schema.association.tagColumn,
      schema.association.join .left "uc" "t.id" schema.association.tagColumn]
    condition := some ("et." ++ schema.association.entityColumn ++ " = $entity_id")
    grouping := some "t.id"
    order := tagOrder }
  params := entityParams entity

/-- All tags, in the order of their identifiers. -/
def listAllTags (schema : Schema) : Prepared where
  statement := .select {
    columns := tagItems
    source := schema.tags.table ++ " t"
    order := [columnOrder "t.id" .ascending] }
  params := .empty

end Schema

/-- Compile a filter and list the entities it admits. -/
def Schema.listFiltered {σ : Type} [IdCache σ] (schema : Schema) (filter : Filter)
    (window : PageWindow) : Action Failure σ Prepared := do
  return schema.listEntities (← filter.compile) window

end TagQuery
