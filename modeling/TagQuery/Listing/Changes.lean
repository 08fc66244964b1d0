import TagQuery.Listing.Queries

/-!
The statements that create tags and that attach them to entities and detach them.
-/

namespace TagQuery

/-- The identifier of a valid tag. -/
def Tag.resolve {σ : Type} [IdCache σ] (tag : Tag) : Action Failure σ TagId := do
  .ofExcept (tag.check.mapError .ofQuery)
  (IdCache.lookup tag.signature).mapFault .ofCache

namespace Schema

/-- Attach a tag to an entity; nothing happens when it is attached already. -/
def attach (schema : Schema) (entity : Int64) (id : TagId) : Prepared where
  statement := .insert {
    table := schema.association.table
    columns := [schema.association.entityColumn, schema.association.tagColumn]
    rows := [["$entity_id", id.text]]
    onConflict := some .doNothing }
  params := entityParams entity

/-- Detach a tag from an entity; nothing happens when it is not attached. -/
def detach (schema : Schema) (entity : Int64) (id : TagId) : Prepared where
  statement := .delete {
    table := schema.association.table
    condition := some (schema.association.entityColumn ++ " = $entity_id AND " ++
      schema.association.tagColumn ++ " = " ++ id.text) }
  params := entityParams entity

/-- Attach a tag that the cache knows. -/
def attachKnown {σ : Type} [IdCache σ] (schema : Schema) (entity : Int64) (tag : Tag) :
    Action Failure σ Prepared := do
  return schema.attach entity (← tag.resolve)

/-- Detach a tag that the cache knows. -/
def detachKnown {σ : Type} [IdCache σ] (schema : Schema) (entity : Int64) (tag : Tag) :
    Action Failure σ Prepared := do
  return schema.detach entity (← tag.resolve)

/-- The tags of a list, each where it first occurs, with the type it has there. -/
def distinctTags (tags : List TagDraft) : List TagDraft :=
  tags.eraseDupsBy fun later earlier => later.tag.signature == earlier.tag.signature

/-- A parameter of one row of an insert. -/
def rowParameter (column : String) (index : Nat) : String :=
  column ++ "_" ++ Number.writeNat index

def draftRow (index : Nat) : List String :=
  ["key", "value", "type"].map fun column => "$" ++ rowParameter column index

def draftParams (index : Nat) (new : TagDraft) : List (String × Value) :=
  [(rowParameter "key" index, .text new.tag.key),
   (rowParameter "value" index, .ofText? new.tag.value),
   (rowParameter "type" index, .text new.type.name)]

/-- Insert distinct tags and return those that were not stored before. -/
def insertTags (schema : Schema) (tags : List TagDraft) : Prepared where
  statement := .insert {
    table := schema.tags.table
    columns := ["key", "value", "type"]
    rows := (List.range tags.length).map draftRow
    onConflict := some .doNothing
    returning := tagColumns }
  params := .ofList (tags.mapIdx draftParams).flatten

/-- The insert of new tags, or nothing when there are none. One bad tag spoils them all. -/
def createTags (schema : Schema) (tags : List TagDraft) : Except QueryFault (Option Prepared) := do
  tags.forM fun new => new.tag.check
  if tags = [] then return none
  return some (schema.insertTags (distinctTags tags))

end Schema

end TagQuery
