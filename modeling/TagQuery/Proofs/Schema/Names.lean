import TagQuery.Proofs.Schema.Requirements

/-! What the check of a schema says of its names. -/

namespace TagQuery

/-- The usual names pass the check. -/
theorem Schema.check_usual : ({} : Schema).check = .ok () := rfl

/-- Every name of the schema is a qualified identifier. -/
structure Schema.Named (schema : Schema) : Prop where
  entityTable : Text.isQualifiedIdentifier schema.entity.table
  idColumn : Text.isQualifiedIdentifier schema.entity.idColumn
  createdColumn : Text.isQualifiedIdentifier schema.entity.createdColumn
  columns : ∀ column ∈ schema.entity.columns, Text.isQualifiedIdentifier column
  tagTable : Text.isQualifiedIdentifier schema.tags.table
  associationTable : Text.isQualifiedIdentifier schema.association.table
  entityColumn : Text.isQualifiedIdentifier schema.association.entityColumn
  tagColumn : Text.isQualifiedIdentifier schema.association.tagColumn

theorem Schema.named_of_check {schema : Schema} (checked : schema.check = .ok ()) :
    schema.Named := by
  have met := Schema.check_ok_iff.mp checked
  have named (setting : String) {value : String}
      (asked : .name setting value ∈ schema.requirements) : Text.isQualifiedIdentifier value :=
    Text.isQualifiedIdentifier_iff.mpr (met (.name setting value) asked)
  exact {
    entityTable := named "entity.table" (by simp [requirements])
    idColumn := named "entity.id_column" (by simp [requirements])
    createdColumn := named "entity.created_column" (by simp [requirements])
    columns := fun column member => named "entity.columns" (by simp [requirements, member])
    tagTable := named "tags.table" (by simp [requirements])
    associationTable := named "association.table" (by simp [requirements])
    entityColumn := named "association.entity_column" (by simp [requirements])
    tagColumn := named "association.tag_column" (by simp [requirements]) }

end TagQuery
