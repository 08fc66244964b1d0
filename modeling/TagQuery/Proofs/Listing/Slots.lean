import TagQuery.Listing.Changes
import TagQuery.Proofs.Listing.Compiled
import TagQuery.Proofs.Schema.Names
import TagQuery.Proofs.Statement.Rendered

/-! The slots of the statements that list, create, attach and detach. -/

namespace TagQuery

theorem fragment_plain {text : String} (plain : Plain text) : Fragment isUsual text [] :=
  .of_plain (fun _ usual => usual) plain

theorem fragments_plain {texts : List String} (plain : ∀ text ∈ texts, Plain text) :
    ∀ text ∈ texts, Fragment isUsual text [] :=
  fun text member => fragment_plain (plain text member)

/-- A slot between other text. -/
theorem fragment_around {before after : String} (plain : Plain before) (name : String)
    (identifier : Text.isIdentifier name.toList) (rest : Fragment isUsual after [])
    (opens : after.toList.head?.any Text.isIdentifierRest = false) :
    Fragment isUsual (before ++ ("$" ++ name) ++ after) [name] := by
  have dollar : ("$" ++ name).toList.head? = some '$' := by simp
  have start := (fragment_plain plain).append (.slot identifier) (.inr (by rw [dollar]; rfl))
  simpa using start.append rest (.inr opens)

theorem isIdentifier_append {start digits : List Char} (identifier : Text.isIdentifier start)
    (rest : digits.all Text.isIdentifierRest) : Text.isIdentifier (start ++ digits) := by
  cases start with
  | nil => cases identifier
  | cons first more => simp_all [Text.isIdentifier]

theorem isIdentifier_familyParameter (index : Nat) :
    Text.isIdentifier (familyParameter index).toList := by
  have digits := List.all_eq_true.mp (Number.all_isDigit_writeNat index)
  rw [familyParameter, String.toList_append]
  refine isIdentifier_append (by decide) (List.all_eq_true.mpr fun character member => ?_)
  exact Number.isIdentifierRest_of_isDigit (digits character member)

def Atom.slotNames : Atom → List String
  | .always | .carries _ => []
  | .carriesFamily index => [familyParameter index]

theorem Atom.fragment_text {schema : Schema} (named : schema.Named) (atom : Atom) :
    Fragment isUsual (atom.text schema) atom.slotNames := by
  have table := Plain.of_isQualifiedIdentifier named.associationTable
  have tags := Plain.of_isQualifiedIdentifier named.tagTable
  have tagColumn := Plain.of_isQualifiedIdentifier named.tagColumn
  have entityColumn := Plain.of_isQualifiedIdentifier named.entityColumn
  have idColumn := Plain.of_isQualifiedIdentifier named.idColumn
  cases atom with
  | always => exact fragment_plain (show Plain "1=1" by decide)
  | carries id =>
    refine fragment_plain ?_
    unfold Atom.text carriesText
    simp +decide only [Plain.append_iff, tagColumn, TagId.text, Plain.writeInt64]
  | carriesFamily index =>
    have before : Plain ("EXISTS (SELECT 1 FROM " ++ schema.association.table ++ " fet INNER JOIN " ++
        schema.tags.table ++ " ft ON ft.id = fet." ++ schema.association.tagColumn ++
        " WHERE fet." ++ schema.association.entityColumn ++ " = e." ++ schema.entity.idColumn ++
        " AND ft.key = ") := by
      simp +decide only [Plain.append_iff, table, tags, tagColumn, entityColumn, idColumn]
    have whole := fragment_around before _ (isIdentifier_familyParameter index)
      (fragment_plain (show Plain ")" by decide)) (by decide)
    have cut : " AND ft.key = $" = " AND ft.key = " ++ "$" := rfl
    unfold Atom.text carriesFamilyText
    rw [cut]
    simpa only [String.append_assoc, Atom.slotNames] using whole

namespace Predicate

/-- The slots of a predicate, one for each test of a family. -/
def slotNames (predicate : Predicate) : List String :=
  predicate.leaves.flatMap Atom.slotNames

theorem fragment_text {schema : Schema} (named : schema.Named) (predicate : Predicate) :
    Fragment isUsual (text schema predicate) predicate.slotNames := by
  have permits : ∀ character, isUsual character → isUsual character := fun _ usual => usual
  induction predicate with
  | leaf atom => simpa [text, slotNames, Formula.leaves] using atom.fragment_text named
  | and left right leftFragment rightFragment =>
    have between : Divides " AND " := by decide
    have pair := Fragment.enclosed permits (.joined permits between leftFragment rightFragment)
    simpa [text, slotNames, Formula.leaves, String.append_assoc] using pair
  | or left right leftFragment rightFragment =>
    have between : Divides " OR " := by decide
    have pair := Fragment.enclosed permits (.joined permits between leftFragment rightFragment)
    simpa [text, slotNames, Formula.leaves, String.append_assoc] using pair
  | not inner innerFragment =>
    have negation : Leads "NOT " := by decide
    have negated := Fragment.preceded permits negation (.enclosed permits innerFragment)
    rw [← String.append_assoc, ← String.append_assoc] at negated
    exact negated

end Predicate

/-- A query with slots in its conditions and its bounds only. -/
theorem Select.fragment_of_conditions (dialect : Dialect) {statement : Select}
    (columns : ∀ text ∈ statement.columns, Fragment isUsual text [])
    (source : Fragment isUsual statement.source [])
    (joins : ∀ join ∈ statement.joins,
      Fragment isUsual join.table [] ∧ Fragment isUsual join.condition [])
    (condition : ∀ text ∈ statement.condition, Sealed isUsual text)
    (grouping : ∀ text ∈ statement.grouping, Fragment isUsual text [])
    (groupCondition : ∀ text ∈ statement.groupCondition, Sealed isUsual text)
    (order : ∀ item ∈ statement.order, ∀ text, item.key = .column text → Fragment isUsual text [])
    (limit : ∀ bound ∈ statement.limit, bound.Named)
    (offset : ∀ bound ∈ statement.offset, bound.Named) :
    Fragment isUsual (statement.text dialect)
      (slotsOf statement.condition ++ slotsOf statement.groupCondition ++
        statement.limit.elim [] RowBound.slotNames ++
        statement.offset.elim [] RowBound.slotNames) := by
  have whole := Select.fragment_text (fun _ usual => usual) dialect {
    columns := fun text member => (columns text member).sealed
    source := source.sealed
    joins := fun join member => ⟨(joins join member).1.sealed, (joins join member).2.sealed⟩
    condition
    grouping := fun text member => (grouping text member).sealed
    groupCondition
    order := fun item member text column => (order item member text column).sealed
    limit
    offset }
  have joined : statement.joins.flatMap Join.slotNames = [] := by
    apply List.flatMap_eq_nil_iff.mpr
    intro join member
    rw [Join.slotNames, (joins join member).1.slots_eq, (joins join member).2.slots_eq]
    rfl
  have grouped : slotsOf statement.grouping = [] := by
    cases key : statement.grouping with
    | none => rfl
    | some text => exact (grouping text key).slots_eq
  have sorted : statement.order.flatMap OrderItem.slotNames = [] := by
    apply List.flatMap_eq_nil_iff.mpr
    intro item member
    unfold OrderItem.slotNames
    split
    · rfl
    · next text column => exact (order item member text column).slots_eq
  simpa [Select.slotNames, flatMap_slots_eq_nil columns, source.slots_eq, joined, grouped,
    sorted] using whole

/-- The bounds of a page are given by parameters. -/
private theorem namedLimit : (RowBound.parameter "limit").Named := by
  unfold RowBound.Named
  decide

private theorem namedOffset : (RowBound.parameter "offset").Named := by
  unfold RowBound.Named
  decide

section Listings

variable {schema : Schema} (named : schema.Named)
include named

theorem fragment_association_join (kind : JoinKind) {short key column : String}
    (plainShort : Plain short) (plainKey : Plain key) (plainColumn : Plain column) :
    Fragment isUsual (schema.association.join kind short key column).table [] ∧
      Fragment isUsual (schema.association.join kind short key column).condition [] := by
  have table := Plain.of_isQualifiedIdentifier named.associationTable
  constructor <;> refine fragment_plain ?_ <;> unfold AssociationTable.join
  · simp +decide only [Plain.append_iff, table, plainShort]
  · simp +decide only [Plain.append_iff, plainKey, plainShort, plainColumn]

theorem fragment_listEntities (dialect : Dialect) (compiled : CompiledFilter)
    (window : PageWindow) :
    Fragment isUsual ((schema.listEntities compiled window).statement.text dialect)
      (compiled.predicate.slotNames ++ ["limit", "offset"]) := by
  have idColumn := Plain.of_isQualifiedIdentifier named.idColumn
  have createdColumn := Plain.of_isQualifiedIdentifier named.createdColumn
  have entityColumn := Plain.of_isQualifiedIdentifier named.entityColumn
  have table := Plain.of_isQualifiedIdentifier named.entityTable
  have key : Plain ("e." ++ schema.entity.idColumn) := by
    simp +decide only [Plain.append_iff, idColumn]
  have created : Plain ("e." ++ schema.entity.createdColumn) := by
    simp +decide only [Plain.append_iff, createdColumn]
  have condition := compiled.predicate.fragment_text named
  have columns : ∀ text ∈ schema.entity.columns.map ("e." ++ ·) ++ [totalItem],
      Fragment isUsual text [] := by
    simp only [List.forall_mem_append, List.forall_mem_singleton, List.forall_mem_map]
    refine ⟨fun column member => fragment_plain ?_, fragment_plain (by decide)⟩
    have valid := Plain.of_isQualifiedIdentifier (named.columns column member)
    simp +decide only [Plain.append_iff, valid]
  have source : Fragment isUsual (schema.entity.table ++ " e") [] :=
    fragment_plain (by simp +decide only [Plain.append_iff, table])
  have join := fragment_association_join named .left (show Plain "et" by decide) key entityColumn
  have order : ∀ item ∈ compiled.order.orderItems schema.entity, ∀ text, item.key = .column text →
      Fragment isUsual text [] := by
    unfold ListingOrder.orderItems
    split
    · simp
    · simp only [List.forall_mem_cons, OrderKey.column.injEq, forall_eq']
      exact ⟨fragment_plain created, fragment_plain key, List.forall_mem_nil _⟩
  have whole : Fragment isUsual ((schema.listEntities compiled window).statement.text dialect) _ :=
    Select.fragment_of_conditions dialect columns source (by simpa using join) (by simp)
      (by simpa using fragment_plain key) (by simpa using condition.sealed) order
      (by simpa using namedLimit) (by simpa using namedOffset)
  simpa [slotsOf, RowBound.slotNames, condition.slots_eq] using whole

omit named in
/-- The items of a listing of tags, and their order, name columns only. -/
private theorem fragment_tagItems : ∀ text ∈ tagItems, Fragment isUsual text [] :=
  fragments_plain (by decide)

omit named in
private theorem fragment_tagOrder : ∀ item ∈ tagOrder, ∀ text, item.key = .column text →
    Fragment isUsual text [] := by
  simp only [tagOrder, columnOrder, List.forall_mem_cons, OrderKey.column.injEq, forall_eq']
  exact ⟨fragment_plain (by decide), fragment_plain (by decide), List.forall_mem_nil _⟩

omit named in
/-- What a search compares is given by parameters. -/
theorem fragment_tagCondition (schema : Schema) (query : Tag) :
    Fragment isUsual (schema.tagCondition query)
    (Schema.tagConditionParams query).keys := by
  have escape : Fragment isUsual " ESCAPE '\\'" [] :=
    .of_usual (fun _ usual => usual) (by decide) (by decide)
  have operator : Plain schema.dialect.matchOperator := by
    cases schema.dialect <;> decide
  unfold Schema.tagCondition Schema.tagConditionParams
  cases query.value with
  | none =>
    have before : Plain ("t.key " ++ schema.dialect.matchOperator ++ " ") := by
      simp +decide only [Plain.append_iff, operator]
    have whole := fragment_around before "key_pattern" (by decide) escape (by decide)
    have cut : " $key_pattern ESCAPE '\\'" = " " ++ ("$" ++ "key_pattern") ++ " ESCAPE '\\'" := rfl
    change Fragment isUsual _ ["key_pattern"]
    rw [cut]
    simpa only [String.append_assoc] using whole
  | some value =>
    have between : Plain (" AND t.value " ++ schema.dialect.matchOperator ++ " ") := by
      simp +decide only [Plain.append_iff, operator]
    have key := fragment_around (show Plain "t.key = " by decide) "tag_key" (by decide)
      (fragment_plain between) (by simp; decide)
    have pattern := fragment_around (show Plain "" by decide) "value_pattern" (by decide) escape
      (by decide)
    have whole := key.append pattern (.inr (by decide))
    have cut : "t.key = $tag_key AND t.value " =
        "t.key = " ++ ("$" ++ "tag_key") ++ " AND t.value " := rfl
    have cut' : " $value_pattern ESCAPE '\\'" =
      " " ++ ("" ++ ("$" ++ "value_pattern") ++ " ESCAPE '\\'") := rfl
    change Fragment isUsual _ ["tag_key", "value_pattern"]
    rw [cut, cut']
    simpa only [String.append_assoc, List.singleton_append] using whole

theorem fragment_listTags (dialect : Dialect) (query : Tag) (window : PageWindow) :
    Fragment isUsual ((schema.listTags query window).statement.text dialect)
      ((Schema.tagConditionParams query).keys ++ ["limit", "offset"]) := by
  have entityColumn := Plain.of_isQualifiedIdentifier named.entityColumn
  have tagColumn := Plain.of_isQualifiedIdentifier named.tagColumn
  have table := Plain.of_isQualifiedIdentifier named.tagTable
  have count : Plain ("COUNT(et." ++ schema.association.entityColumn ++ ") AS usage_count") := by
    simp +decide only [Plain.append_iff, entityColumn]
  have columns : ∀ text ∈ tagItems ++
      ["COUNT(et." ++ schema.association.entityColumn ++ ") AS usage_count", totalItem],
      Fragment isUsual text [] := by
    simp only [List.forall_mem_append, List.forall_mem_cons]
    exact ⟨fragment_tagItems, fragment_plain count, fragment_plain (by decide),
      List.forall_mem_nil _⟩
  have source : Fragment isUsual (schema.tags.table ++ " t") [] :=
    fragment_plain (by simp +decide only [Plain.append_iff, table])
  have join := fragment_association_join named .left (show Plain "et" by decide)
    (show Plain "t.id" by decide) tagColumn
  have order : ∀ item ∈ columnOrder "usage_count" .descending :: tagOrder, ∀ text,
      item.key = .column text → Fragment isUsual text [] := by
    simp only [List.forall_mem_cons, columnOrder, OrderKey.column.injEq, forall_eq']
    exact ⟨fragment_plain (by decide), fragment_tagOrder⟩
  have condition := fragment_tagCondition schema query
  have whole : Fragment isUsual ((schema.listTags query window).statement.text dialect) _ :=
    Select.fragment_of_conditions dialect columns source (by simpa using join)
      (by simpa using condition.sealed) (by simpa using fragment_plain (show Plain "t.id" by decide))
      (by simp) order (by simpa using namedLimit) (by simpa using namedOffset)
  simpa [slotsOf, RowBound.slotNames, condition.slots_eq] using whole

theorem fragment_listEntityTags (dialect : Dialect) (entity : Int64) :
    Fragment isUsual ((schema.listEntityTags entity).statement.text dialect) ["entity_id"] := by
  have entityColumn := Plain.of_isQualifiedIdentifier named.entityColumn
  have tagColumn := Plain.of_isQualifiedIdentifier named.tagColumn
  have table := Plain.of_isQualifiedIdentifier named.tagTable
  have count : Plain ("COUNT(uc." ++ schema.association.entityColumn ++ ") AS usage_count") := by
    simp +decide only [Plain.append_iff, entityColumn]
  have columns : ∀ text ∈ tagItems ++
      ["COUNT(uc." ++ schema.association.entityColumn ++ ") AS usage_count"],
      Fragment isUsual text [] := by
    simp only [List.forall_mem_append, List.forall_mem_cons]
    exact ⟨fragment_tagItems, fragment_plain count, List.forall_mem_nil _⟩
  have source : Fragment isUsual (schema.tags.table ++ " t") [] :=
    fragment_plain (by simp +decide only [Plain.append_iff, table])
  have id : Plain "t.id" := by decide
  have carried := fragment_association_join named .inner (show Plain "et" by decide) id tagColumn
  have counted := fragment_association_join named .left (show Plain "uc" by decide) id tagColumn
  have before : Plain ("et." ++ schema.association.entityColumn ++ " = ") := by
    simp +decide only [Plain.append_iff, entityColumn]
  have condition : Fragment isUsual ("et." ++ schema.association.entityColumn ++ " = $entity_id")
      ["entity_id"] := by
    have cut : " = $entity_id" = " = " ++ ("$" ++ "entity_id") := rfl
    rw [cut, ← String.append_assoc]
    exact (fragment_plain before).append (.slot (by decide)) (.inr (by decide))
  have whole : Fragment isUsual ((schema.listEntityTags entity).statement.text dialect) _ :=
    Select.fragment_of_conditions dialect columns source (by simpa using ⟨carried, counted⟩)
      (by simpa using condition.sealed) (by simpa using fragment_plain id) (by simp)
      fragment_tagOrder (by simp) (by simp)
  simpa [slotsOf, condition.slots_eq] using whole

theorem fragment_listAllTags (dialect : Dialect) :
    Fragment isUsual (schema.listAllTags.statement.text dialect) [] := by
  have table := Plain.of_isQualifiedIdentifier named.tagTable
  have source : Fragment isUsual (schema.tags.table ++ " t") [] :=
    fragment_plain (by simp +decide only [Plain.append_iff, table])
  have order : ∀ item ∈ [columnOrder "t.id" .ascending], ∀ text, item.key = .column text →
      Fragment isUsual text [] := by
    simp only [List.forall_mem_singleton, columnOrder, OrderKey.column.injEq, forall_eq']
    exact fragment_plain (by decide)
  have whole : Fragment isUsual (schema.listAllTags.statement.text dialect) _ :=
    Select.fragment_of_conditions dialect fragment_tagItems source (by simp) (by simp) (by simp)
      (by simp) order (by simp) (by simp)
  simpa [slotsOf] using whole

end Listings

section Changes

variable {schema : Schema} (named : schema.Named)
include named

theorem fragment_attach (dialect : Dialect) (entity : Int64) (id : TagId) :
    Fragment isUsual ((schema.attach entity id).statement.text dialect) ["entity_id"] := by
  have table := fragment_plain (Plain.of_isQualifiedIdentifier named.associationTable)
  have entityColumn := fragment_plain (Plain.of_isQualifiedIdentifier named.entityColumn)
  have tagColumn := fragment_plain (Plain.of_isQualifiedIdentifier named.tagColumn)
  have entitySlot : Fragment isUsual "$entity_id" ["entity_id"] :=
    .slot (show Text.isIdentifier "entity_id".toList by decide)
  have tag : Fragment isUsual id.text [] := fragment_plain (.writeInt64 id.value)
  have sound : (schema.attach entity id).statement.Sound isUsual := by
    refine Insert.Sound.mk table.sealed ?_ ?_ ?_ ?_
    · simpa using ⟨entityColumn.sealed, tagColumn.sealed⟩
    · simpa using ⟨entitySlot.sealed, tag.sealed⟩
    · simp [ConflictAction.Sound]
    · simp
  have whole := Statement.fragment_text (fun _ usual => usual) dialect sound
  simpa [Statement.slotNames, Insert.slotNames, Schema.attach, ConflictAction.slotNames,
    table.slots_eq, entityColumn.slots_eq, tagColumn.slots_eq, entitySlot.slots_eq,
    tag.slots_eq] using whole

theorem fragment_detach (dialect : Dialect) (entity : Int64) (id : TagId) :
    Fragment isUsual ((schema.detach entity id).statement.text dialect) ["entity_id"] := by
  have table := fragment_plain (Plain.of_isQualifiedIdentifier named.associationTable)
  have entityColumn := Plain.of_isQualifiedIdentifier named.entityColumn
  have tagColumn := Plain.of_isQualifiedIdentifier named.tagColumn
  have before : Plain (schema.association.entityColumn ++ " = ") := by
    simp +decide only [Plain.append_iff, entityColumn]
  have after : Plain (" AND " ++ schema.association.tagColumn ++ " = " ++ id.text) := by
    simp +decide only [Plain.append_iff, tagColumn, TagId.text, Plain.writeInt64]
  have condition : Fragment isUsual (schema.association.entityColumn ++ " = $entity_id AND " ++
      schema.association.tagColumn ++ " = " ++ id.text) ["entity_id"] := by
    have between := fragment_around before "entity_id" (by decide) (fragment_plain after)
      (by simp; decide)
    have cut : " = $entity_id AND " = " = " ++ ("$" ++ "entity_id") ++ " AND " := rfl
    rw [cut]
    simpa only [String.append_assoc] using between
  have sound : (schema.detach entity id).statement.Sound isUsual :=
    Delete.Sound.mk table.sealed (by simpa using condition.sealed)
  have whole := Statement.fragment_text (fun _ usual => usual) dialect sound
  simpa [Statement.slotNames, Delete.slotNames, Schema.detach, slotsOf, table.slots_eq,
    condition.slots_eq] using whole

omit named in
theorem isIdentifier_rowParameter {column : String} (identifier : Text.isIdentifier column.toList)
    (index : Nat) : Text.isIdentifier (Schema.rowParameter column index).toList := by
  have digits := List.all_eq_true.mp (Number.all_isDigit_writeNat index)
  rw [Schema.rowParameter, String.toList_append, String.toList_append]
  refine isIdentifier_append (isIdentifier_append identifier (by decide))
    (List.all_eq_true.mpr fun character member => ?_)
  exact Number.isIdentifierRest_of_isDigit (digits character member)

/-- The names of the parameters of one row. -/
def rowNames (index : Nat) : List String :=
  ["key", "value", "type"].map fun column => Schema.rowParameter column index

omit named in
private theorem fragments_draftRow (index : Nat) :
    (∀ text ∈ Schema.draftRow index, Sealed isUsual text) ∧
      (Schema.draftRow index).flatMap slots = rowNames index := by
  have identifiers : ∀ column ∈ ["key", "value", "type"], Text.isIdentifier column.toList := by
    decide
  have written (column : String) (member : column ∈ ["key", "value", "type"]) :
      Fragment isUsual ("$" ++ Schema.rowParameter column index)
        [Schema.rowParameter column index] :=
    .slot (isIdentifier_rowParameter (identifiers column member) index)
  have row := fragments_map written
  exact ⟨row.1, row.2⟩

theorem fragment_insertTags (dialect : Dialect) (tags : List TagDraft) :
    Fragment isUsual ((schema.insertTags tags).statement.text dialect)
      ((List.range tags.length).flatMap rowNames) := by
  have table := fragment_plain (Plain.of_isQualifiedIdentifier named.tagTable)
  have columns : ∀ text ∈ ["key", "value", "type"], Fragment isUsual text [] :=
    fragments_plain (by decide)
  have returning : ∀ text ∈ tagColumns, Fragment isUsual text [] :=
    fragments_plain (by decide)
  have sound : (schema.insertTags tags).statement.Sound isUsual := by
    refine Insert.Sound.mk table.sealed ?_ ?_ ?_ ?_
    · exact fun text member => (columns text member).sealed
    · intro row member
      obtain ⟨index, _, rfl⟩ := List.mem_map.mp member
      exact (fragments_draftRow index).1
    · simp [ConflictAction.Sound]
    · exact fun text member => (returning text member).sealed
  have rows : ((List.range tags.length).map Schema.draftRow).flatMap (fun row => row.flatMap slots) =
      (List.range tags.length).flatMap rowNames := by
    rw [List.flatMap_map]
    exact List.flatMap_congr fun index _ => (fragments_draftRow index).2
  have whole := Statement.fragment_text (fun _ usual => usual) dialect sound
  simp only [Statement.slotNames, Insert.slotNames, Schema.insertTags, table.slots_eq,
    flatMap_slots_eq_nil columns, flatMap_slots_eq_nil returning, rows, List.nil_append,
    Option.elim, ConflictAction.slotNames, List.append_nil] at whole
  exact whole

end Changes

end TagQuery
