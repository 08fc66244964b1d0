import TagQuery.Schema.Basic
import TagQuery.Schema.Fault
import TagQuery.Text.Identifier

/-!
Which schemas may be written into statements: every name is a qualified identifier and
at least one entity column is selected.
-/

namespace TagQuery

/-- A setting is known by its path in the configuration document. -/
def checkName (setting value : String) : Except ConfigFault Unit :=
  if Text.isQualifiedIdentifier value then .ok () else .error (.invalidIdentifier setting value)

def EntityTable.checkColumns (entity : EntityTable) : Except ConfigFault Unit :=
  if entity.columns = [] then .error .noEntityColumns
  else entity.columns.forM (checkName "entity.columns")

/-- Names are checked in the order of the document, so the first bad one is reported. -/
def Schema.check (schema : Schema) : Except ConfigFault Unit := do
  checkName "entity.table" schema.entity.table
  checkName "entity.id_column" schema.entity.idColumn
  checkName "entity.created_column" schema.entity.createdColumn
  schema.entity.checkColumns
  checkName "tags.table" schema.tags.table
  checkName "association.table" schema.association.table
  checkName "association.entity_column" schema.association.entityColumn
  checkName "association.tag_column" schema.association.tagColumn

end TagQuery
