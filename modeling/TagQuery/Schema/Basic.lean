import TagQuery.Schema.Dialect

/-!
The tables and columns that statements name, the dialect they are written in, and the
keys under which a shared store keeps tag identifiers.
-/

namespace TagQuery

/-- The table of the entities that carry tags. -/
structure EntityTable where
  table : String := "documents"
  idColumn : String := "id"
  /-- The column that orders entities by age. -/
  createdColumn : String := "created_at"
  /-- The columns a listing selects. -/
  columns : List String := ["id"]
deriving DecidableEq, Repr

/-- The table of the tags, whose columns are always `id`, `key`, `value` and `type`. -/
structure TagTable where
  table : String := "tags"
deriving DecidableEq, Repr

/-- The table of the pairs of an entity and a tag it carries. -/
structure AssociationTable where
  table : String := "entity_tags"
  entityColumn : String := "entity_id"
  tagColumn : String := "tag_id"
deriving DecidableEq, Repr

structure CacheSettings where
  /-- What stands before a signature in the key of its entry. -/
  keyStart : String := "tag:"
deriving DecidableEq, Repr

structure Schema where
  dialect : Dialect := .postgres
  entity : EntityTable := {}
  tags : TagTable := {}
  association : AssociationTable := {}
  cache : CacheSettings := {}
deriving DecidableEq, Repr

end TagQuery
