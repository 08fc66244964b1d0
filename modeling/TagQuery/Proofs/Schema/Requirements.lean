import TagQuery.Proofs.Action.Outcome
import TagQuery.Proofs.List.First
import TagQuery.Proofs.Text.Qualified
import TagQuery.Schema.Validity

/-! What the check asks of a schema, one thing after another, and that it passes a schema which
meets all of that and reports the first thing which another schema does not meet. -/

namespace TagQuery

/-- What is asked of a schema: the value of a setting is a qualified identifier, or there is a
column to select. -/
inductive Requirement where
  | name (setting value : String)
  | columns (selected : List String)
deriving DecidableEq, Repr

namespace Requirement

def Met : Requirement → Prop
  | .name _ value => Text.Qualified value
  | .columns selected => selected ≠ []

/-- What is reported of a requirement that is not met. -/
def fault : Requirement → ConfigFault
  | .name setting value => .invalidIdentifier setting value
  | .columns _ => .noEntityColumns

def check : Requirement → Except ConfigFault Unit
  | .name setting value => checkName setting value
  | .columns selected => if selected = [] then .error .noEntityColumns else .ok ()

end Requirement

/-- All that is asked of a schema, in the order in which the check goes through it. -/
def Schema.requirements (schema : Schema) : List Requirement :=
  [.name "entity.table" schema.entity.table, .name "entity.id_column" schema.entity.idColumn,
    .name "entity.created_column" schema.entity.createdColumn, .columns schema.entity.columns] ++
  schema.entity.columns.map (.name "entity.columns") ++
  [.name "tags.table" schema.tags.table, .name "association.table" schema.association.table,
    .name "association.entity_column" schema.association.entityColumn,
    .name "association.tag_column" schema.association.tagColumn]

namespace Requirement

variable {requirement : Requirement}

theorem check_of_met (met : requirement.Met) : requirement.check = .ok () := by
  cases requirement with
  | name setting value => exact if_pos (Text.isQualifiedIdentifier_iff.mpr met)
  | columns selected => exact if_neg met

theorem check_of_not_met (unmet : ¬ requirement.Met) :
    requirement.check = .error requirement.fault := by
  cases requirement with
  | name setting value => exact if_neg (mt Text.isQualifiedIdentifier_iff.mp unmet)
  | columns selected => exact if_pos (not_not.mp unmet)

theorem check_ok_iff : requirement.check = .ok () ↔ requirement.Met := by
  constructor
  · intro passed
    by_contra unmet
    rw [check_of_not_met unmet] at passed
    cases passed
  · exact check_of_met

theorem check_error_iff {fault : ConfigFault} :
    requirement.check = .error fault ↔ ¬ requirement.Met ∧ fault = requirement.fault := by
  constructor
  · intro failed
    have unmet : ¬ requirement.Met := by
      intro met
      rw [check_of_met met] at failed
      cases failed
    rw [check_of_not_met unmet] at failed
    exact ⟨unmet, (Except.error.inj failed).symm⟩
  · intro refused
    obtain ⟨unmet, same⟩ := refused
    rw [same]
    exact check_of_not_met unmet

end Requirement

namespace Schema

variable {schema : Schema}

/-- That there is a column is asked before anything is asked of the columns. -/
private theorem checkColumns_eq (entity : EntityTable) : entity.checkColumns = (do
    (Requirement.columns entity.columns).check
    entity.columns.forM (checkName "entity.columns")) := by
  unfold EntityTable.checkColumns
  by_cases none : entity.columns = []
  · rw [if_pos none, Requirement.check, if_pos none]
    rfl
  · rw [if_neg none, Requirement.check, if_neg none]
    rfl

/-- The check goes through the requirements. -/
theorem check_eq (schema : Schema) : schema.check = schema.requirements.forM Requirement.check := by
  rw [check, checkColumns_eq]
  -- The checks are laid out in a row on both sides; a name is checked by its requirement.
  simp only [requirements, List.forM_eq_forM, List.forM_append, List.forM_cons, List.forM_nil,
    List.forM_map, bind_assoc, bind_pure_unit]
  rfl

theorem check_ok_iff : schema.check = .ok () ↔
    ∀ requirement ∈ schema.requirements, requirement.Met := by
  rw [check_eq, Outcome.forM_ok_iff]
  simp only [Requirement.check_ok_iff]

theorem check_error_iff {fault : ConfigFault} : schema.check = .error fault ↔
    ∃ requirement, FirstOf (¬ Requirement.Met ·) schema.requirements requirement ∧
      fault = requirement.fault := by
  rw [check_eq, Outcome.forM_error_iff]
  constructor
  · intro failed
    obtain ⟨before, requirement, after, split, passed, failed⟩ := failed
    obtain ⟨unmet, same⟩ := Requirement.check_error_iff.mp failed
    refine ⟨requirement, ⟨before, after, split, unmet, fun earlier member => ?_⟩, same⟩
    exact not_not_intro (Requirement.check_ok_iff.mp (passed earlier member))
  · intro failed
    obtain ⟨requirement, ⟨before, after, split, unmet, met⟩, same⟩ := failed
    refine ⟨before, requirement, after, split, fun earlier member => ?_, ?_⟩
    · exact Requirement.check_ok_iff.mpr (not_not.mp (met earlier member))
    · exact Requirement.check_error_iff.mpr ⟨unmet, same⟩

/-- The check passes exactly the schemas that select a column and in which all names are qualified
identifiers. Of any other schema it reports the first name that is none, or that no column is
selected where that comes first. -/
theorem check_outcome (schema : Schema) :
    (schema.check = .ok () ↔ ∀ requirement ∈ schema.requirements, requirement.Met) ∧
    ∀ fault, schema.check = .error fault ↔
      ∃ requirement, FirstOf (¬ Requirement.Met ·) schema.requirements requirement ∧
        fault = requirement.fault :=
  ⟨check_ok_iff, fun _ => check_error_iff⟩

example : check { entity := { columns := [] }, tags := { table := "tags." } } =
    .error .noEntityColumns := rfl

end Schema

end TagQuery
