import TagQuery.Proofs.Listing.Changes
import TagQuery.Proofs.Listing.Order
import TagQuery.Proofs.Statement.Identifiers

/-! The texts of the changes of a schema as they are executed, and the identifiers that name tags
in them and in the tests of listings of entities. -/

namespace TagQuery

/-- Text around the slots of a statement goes on as it was when they are bound. -/
theorem Statement.bind_framed {statement : Statement} {dialect : Dialect} {params : Params}
    {before slots after bound : String} {order : List String} {values : List Value}
    (text : statement.text dialect = before ++ slots ++ after) (leading : Plain before)
    (trailing : Plain after) (begins : slots.toList.head?.any Text.isIdentifierRest = false)
    (apart : after.toList.head?.any Text.isIdentifierRest = false)
    (names : Lexeme.names (Lexeme.scan false slots.toList) = order)
    (placed : (Lexeme.scan false slots.toList).flatMap (Lexeme.bound dialect order) = bound.toList)
    (found : order.mapM params.require = .ok values) :
    statement.bind dialect params = .ok ⟨before ++ bound ++ after, values⟩ := by
  have each {piece : String} (plain : Plain piece) :
      '$' ∉ piece.toList ∧ '\'' ∉ piece.toList := by
    have usual := List.all_eq_true.mp plain
    exact ⟨fun member => absurd (usual _ member) (by decide),
      fun member => absurd (usual _ member) (by decide)⟩
  have scanned : Lexeme.scan false (statement.text dialect).toList =
      before.toList.map .plain ++ Lexeme.scan false slots.toList ++ after.toList.map .plain := by
    rw [text, String.toList_append, String.toList_append, Lexeme.scan_append (.inr apart),
      Lexeme.scan_append (.inr begins), Lexeme.quotedAfter_of_no_quote (each leading).2,
      Lexeme.scan_of_no_dollar (each leading).1, Lexeme.scan_of_no_dollar (each trailing).1]
  have unnamed (text : List Char) : (text.map Lexeme.plain).filterMap Lexeme.name? = [] := by
    rw [List.filterMap_map, List.filterMap_eq_nil_iff]
    exact fun _ _ => rfl
  have whole : Lexeme.names (Lexeme.scan false (statement.text dialect).toList) = order := by
    rw [scanned, ← names, Lexeme.names, List.filterMap_append, List.filterMap_append, unnamed,
      unnamed, List.nil_append, List.append_nil]
    rfl
  have plain (text : List Char) :
      (text.map Lexeme.plain).flatMap (Lexeme.bound dialect order) = text := by
    rw [List.flatMap_map]
    exact List.flatMap_singleton' text
  unfold Statement.bind bindText
  dsimp only
  rw [whole, scanned, List.flatMap_append, List.flatMap_append, plain, plain, placed, found,
    ← String.toList_append, ← String.toList_append, String.ofList_toList]
  rfl

/-- A change is bound to the entity. -/
theorem Statement.bind_entity {statement : Statement} {dialect : Dialect} {before after : String}
    (text : statement.text dialect = before ++ "$entity_id" ++ after) (leading : Plain before)
    (trailing : Plain after) (apart : after.toList.head?.any Text.isIdentifierRest = false)
    (entity : Int64) : statement.bind dialect (Schema.entityParams entity) =
      .ok ⟨before ++ dialect.placeholder 1 ++ after, [.integer entity]⟩ := by
  have slot : Lexeme.scan false "$entity_id".toList = [.slot "entity_id".toList] := by
    decide +kernel
  have names : Lexeme.names (Lexeme.scan false "$entity_id".toList) = ["entity_id"] := by
    rw [slot]
    rfl
  refine bind_framed text leading trailing (by decide) apart names ?_ rfl
  rw [slot]
  simp [Lexeme.bound]

namespace Schema

variable {schema : Schema}

/-- The text with which a tag is attached, up to the identifier of the tag. -/
def attachStart (schema : Schema) (dialect : Dialect) : String :=
  "INSERT INTO " ++ schema.association.table ++ " (" ++ schema.association.entityColumn ++ ", " ++
    schema.association.tagColumn ++ ") VALUES (" ++ dialect.placeholder 1 ++ ", "

/-- The text with which a tag is detached, up to the identifier of the tag. -/
def detachStart (schema : Schema) (dialect : Dialect) : String :=
  "DELETE FROM " ++ schema.association.table ++ " WHERE " ++ schema.association.entityColumn ++
    " = " ++ dialect.placeholder 1 ++ " AND " ++ schema.association.tagColumn ++ " = "

/-- The statement that is executed to attach a tag. -/
def attachment (schema : Schema) (dialect : Dialect) (entity : Int64) (id : TagId) :
    PositionalStatement :=
  ⟨schema.attachStart dialect ++ id.text ++ ") ON CONFLICT DO NOTHING", [.integer entity]⟩

/-- The statement that is executed to detach a tag. -/
def detachment (schema : Schema) (dialect : Dialect) (entity : Int64) (id : TagId) :
    PositionalStatement :=
  ⟨schema.detachStart dialect ++ id.text, [.integer entity]⟩

/-- The statement that is executed to store one tag. -/
def insertion (schema : Schema) (dialect : Dialect) (draft : TagDraft) : PositionalStatement :=
  ⟨"INSERT INTO " ++ schema.tags.table ++ " (key, value, type) VALUES (" ++
      dialect.placeholder 1 ++ ", " ++ dialect.placeholder 2 ++ ", " ++ dialect.placeholder 3 ++
      ") ON CONFLICT DO NOTHING RETURNING id, key, value, type",
    [.text draft.tag.key, .ofText? draft.tag.value, .text draft.type.name]⟩

section Changes

variable (checked : schema.check = .ok ()) (dialect : Dialect) (entity : Int64) (id : TagId)
include checked

theorem bind_insertTags_singleton (draft : TagDraft) :
    (schema.insertTags [draft]).statement.bind dialect (schema.insertTags [draft]).params =
      .ok (schema.insertion dialect draft) := by
  have table := Plain.of_isQualifiedIdentifier (named_of_check checked).tagTable
  have text : (schema.insertTags [draft]).statement.text dialect =
      "INSERT INTO " ++ schema.tags.table ++ " (key, value, type) VALUES (" ++
        "$key_0, $value_0, $type_0" ++
          ") ON CONFLICT DO NOTHING RETURNING id, key, value, type" := by
    apply String.toList_inj.mp
    simp [insertTags, Statement.text, Insert.text, Insert.clauses, Insert.returningText?, clause?,
      ConflictAction.text, tuple, commaList, draftRow, rowParameter, tagColumns, Number.writeNat]
  have leading : Plain ("INSERT INTO " ++ schema.tags.table ++ " (key, value, type) VALUES (") := by
    simp only [Plain.append_iff, table, and_true]
    decide +kernel
  have slots : Lexeme.scan false "$key_0, $value_0, $type_0".toList =
      [.slot "key_0".toList, .plain ',', .plain ' ', .slot "value_0".toList, .plain ',',
        .plain ' ', .slot "type_0".toList] := by
    decide +kernel
  have names : Lexeme.names (Lexeme.scan false "$key_0, $value_0, $type_0".toList) =
      ["key_0", "value_0", "type_0"] := by
    rw [slots]
    rfl
  have placed : (Lexeme.scan false "$key_0, $value_0, $type_0".toList).flatMap
      (Lexeme.bound dialect ["key_0", "value_0", "type_0"]) =
        (dialect.placeholder 1 ++ ", " ++ dialect.placeholder 2 ++ ", " ++
          dialect.placeholder 3).toList := by
    rw [slots]
    cases dialect <;> decide +kernel
  have keys : (schema.insertTags [draft]).params.keys = ["key_0", "value_0", "type_0"] := by
    have row : rowNames 0 = ["key_0", "value_0", "type_0"] := by decide +kernel
    rw [keys_insertTags, ← row]
    exact List.flatMap_singleton rowNames 0
  have distinct : (schema.insertTags [draft]).params.keys.Nodup := by
    rw [keys]
    decide
  have found := Params.mapM_require_keys distinct
  rw [keys, values_insertTags, List.flatMap_singleton] at found
  have bound := Statement.bind_framed text leading (by decide +kernel) (by decide) (by decide) names
    placed found
  have sql : (schema.insertion dialect draft).sql =
      "INSERT INTO " ++ schema.tags.table ++ " (key, value, type) VALUES (" ++
        (dialect.placeholder 1 ++ ", " ++ dialect.placeholder 2 ++ ", " ++
          dialect.placeholder 3) ++ ") ON CONFLICT DO NOTHING RETURNING id, key, value, type" := by
    unfold insertion
    apply String.toList_inj.mp
    simp only [String.toList_append, List.append_assoc]
  rw [← sql] at bound
  exact bound

theorem bind_attach : (schema.attach entity id).statement.bind dialect
    (schema.attach entity id).params = .ok (schema.attachment dialect entity id) := by
  have named := named_of_check checked
  have table := Plain.of_isQualifiedIdentifier named.associationTable
  have entityColumn := Plain.of_isQualifiedIdentifier named.entityColumn
  have tagColumn := Plain.of_isQualifiedIdentifier named.tagColumn
  have text : (schema.attach entity id).statement.text dialect =
      "INSERT INTO " ++ schema.association.table ++ " (" ++ schema.association.entityColumn ++
        ", " ++ schema.association.tagColumn ++ ") VALUES (" ++ "$entity_id" ++
          (", " ++ id.text ++ ") ON CONFLICT DO NOTHING") := by
    apply String.toList_inj.mp
    simp [attach, Statement.text, Insert.text, Insert.clauses, Insert.returningText?, clause?,
      ConflictAction.text, tuple, commaList]
  have leading : Plain ("INSERT INTO " ++ schema.association.table ++ " (" ++
      schema.association.entityColumn ++ ", " ++ schema.association.tagColumn ++ ") VALUES (") := by
    simp only [Plain.append_iff, table, entityColumn, tagColumn, and_true]
    decide +kernel
  have trailing : Plain (", " ++ id.text ++ ") ON CONFLICT DO NOTHING") := by
    simp only [Plain.append_iff, TagId.text, Plain.writeInt64, and_true]
    decide +kernel
  have apart : (", " ++ id.text ++ ") ON CONFLICT DO NOTHING").toList.head?.any
      Text.isIdentifierRest = false := by
    rw [String.toList_append, String.toList_append]
    rfl
  have bound := Statement.bind_entity text leading trailing apart entity
  have sql : (schema.attachment dialect entity id).sql =
      "INSERT INTO " ++ schema.association.table ++ " (" ++ schema.association.entityColumn ++
        ", " ++ schema.association.tagColumn ++ ") VALUES (" ++ dialect.placeholder 1 ++
          (", " ++ id.text ++ ") ON CONFLICT DO NOTHING") := by
    unfold attachment attachStart
    apply String.toList_inj.mp
    simp only [String.toList_append, List.append_assoc]
  rw [← sql] at bound
  exact bound

theorem bind_detach : (schema.detach entity id).statement.bind dialect
    (schema.detach entity id).params = .ok (schema.detachment dialect entity id) := by
  have named := named_of_check checked
  have table := Plain.of_isQualifiedIdentifier named.associationTable
  have entityColumn := Plain.of_isQualifiedIdentifier named.entityColumn
  have tagColumn := Plain.of_isQualifiedIdentifier named.tagColumn
  have text : (schema.detach entity id).statement.text dialect =
      "DELETE FROM " ++ schema.association.table ++ " WHERE " ++ schema.association.entityColumn ++
        " = " ++ "$entity_id" ++ (" AND " ++ schema.association.tagColumn ++ " = " ++ id.text) := by
    apply String.toList_inj.mp
    simp [detach, Statement.text, Delete.text, clause?]
  have leading : Plain ("DELETE FROM " ++ schema.association.table ++ " WHERE " ++
      schema.association.entityColumn ++ " = ") := by
    simp only [Plain.append_iff, table, entityColumn, and_true]
    decide +kernel
  have trailing : Plain (" AND " ++ schema.association.tagColumn ++ " = " ++ id.text) := by
    simp only [Plain.append_iff, tagColumn, TagId.text, Plain.writeInt64, and_true]
    decide +kernel
  have apart : (" AND " ++ schema.association.tagColumn ++ " = " ++ id.text).toList.head?.any
      Text.isIdentifierRest = false := by
    rw [String.toList_append, String.toList_append, String.toList_append]
    rfl
  have bound := Statement.bind_entity text leading trailing apart entity
  have sql : (schema.detachment dialect entity id).sql =
      "DELETE FROM " ++ schema.association.table ++ " WHERE " ++ schema.association.entityColumn ++
        " = " ++ dialect.placeholder 1 ++
          (" AND " ++ schema.association.tagColumn ++ " = " ++ id.text) := by
    unfold detachment detachStart
    apply String.toList_inj.mp
    simp only [String.toList_append, List.append_assoc]
  rw [← sql] at bound
  exact bound

end Changes

theorem readAfter?_attachment (schema : Schema) (dialect : Dialect) (entity : Int64) (id : TagId) :
    TagId.readAfter? (schema.attachStart dialect).toList
      (schema.attachment dialect entity id).sql.toList = some id := by
  rw [attachment, String.toList_append, String.toList_append, List.append_assoc]
  exact TagId.readAfter?_append _ id (by decide)

theorem readAfter?_detachment (schema : Schema) (dialect : Dialect) (entity : Int64) (id : TagId) :
    TagId.readAfter? (schema.detachStart dialect).toList
      (schema.detachment dialect entity id).sql.toList = some id := by
  have ends : ([] : List Char).head?.any Number.isNumeral = false := rfl
  have whole := TagId.readAfter?_append (schema.detachStart dialect).toList id ends
  rw [List.append_nil] at whole
  rw [detachment, String.toList_append]
  exact whole

/-- What a test for an identifier has in its parentheses before that. -/
def testStart (schema : Schema) : String :=
  "CASE WHEN et." ++ schema.association.tagColumn ++ " = "

theorem head?_testStart (schema : Schema) : schema.testStart.toList.head? = some 'C' := by
  rw [testStart, String.toList_append, String.toList_append]
  rfl

end Schema

/-- The identifier that a test is for. -/
def Atom.id? : Atom → Option TagId
  | .carries id => some id
  | _ => none

private theorem free_of_name {name : String} (valid : Text.isQualifiedIdentifier name) :
    '(' ∉ name.toList := fun member =>
  absurd (List.all_eq_true.mp (Text.all_isNameCharacter valid) _ member) (by decide)

private theorem head?_append {left right : String} {head : Char}
    (begins : left.toList.head? = some head) : (left ++ right).toList.head? = some head := by
  rw [String.toList_append, List.head?_append, begins]
  rfl

namespace Atom

variable {schema : Schema}

private theorem text_carries (schema : Schema) (id : TagId) : (carries id).text schema =
    "SUM" ++ ("(" ++ schema.testStart ++ id.text ++ " THEN 1 ELSE 0 END) > 0") := by
  have cut : "SUM(CASE WHEN et." = "SUM" ++ ("(" ++ "CASE WHEN et.") := rfl
  unfold text carriesText Schema.testStart
  rw [cut]
  apply String.toList_inj.mp
  simp only [String.toList_append, List.append_assoc]

private theorem text_carriesFamily (schema : Schema) (index : Nat) :
    (carriesFamily index).text schema = "EXISTS " ++ ("(" ++ ("SELECT 1 FROM " ++
      (schema.association.table ++ " fet INNER JOIN " ++ schema.tags.table ++ " ft ON ft.id = fet." ++
        schema.association.tagColumn ++ " WHERE fet." ++ schema.association.entityColumn ++ " = e." ++
        schema.entity.idColumn ++ " AND ft.key = $" ++ familyParameter index ++ ")"))) := by
  have cut : "EXISTS (SELECT 1 FROM " = "EXISTS " ++ ("(" ++ "SELECT 1 FROM ") := rfl
  unfold text carriesFamilyText
  dsimp only
  rw [cut]
  apply String.toList_inj.mp
  simp only [String.toList_append, List.append_assoc]

theorem inlines (named : schema.Named) (atom : Atom) :
    Inlines schema.testStart (atom.text schema) atom.id?.toList := by
  cases atom with
  | always =>
    have plain : '(' ∉ "1=1".toList := by decide
    exact .of_free plain
  | carries id =>
    have free : '(' ∉ schema.testStart.toList := by
      simp +decide only [Schema.testStart, String.toList_append, List.mem_append,
        free_of_name named.tagColumn]
    have sum : Inlines schema.testStart "SUM" [] := .of_free (by decide)
    rw [text_carries]
    exact sum.append (.test free id (by decide) (by decide))
  | carriesFamily index =>
    have table := free_of_name named.associationTable
    have tags := free_of_name named.tagTable
    have tagColumn := free_of_name named.tagColumn
    have entityColumn := free_of_name named.entityColumn
    have idColumn := free_of_name named.idColumn
    have parameter : '(' ∉ (familyParameter index).toList := fun member =>
      absurd (List.all_eq_true.mp (Text.all_isIdentifierRest (isIdentifier_familyParameter index))
        _ member) (by decide)
    have before : Inlines schema.testStart "EXISTS " [] := .of_free (by decide)
    rw [text_carriesFamily]
    have select : "SELECT 1 FROM ".toList.head? = some 'S' := rfl
    refine before.append (.opened (.of_free ?_) (head?_append select) schema.head?_testStart
      (by decide))
    simp +decide only [String.toList_append, List.mem_append, table, tags, tagColumn, entityColumn,
      idColumn, parameter]

end Atom

namespace Predicate

variable {schema : Schema}

/-- No predicate begins as a test does in its parentheses. -/
theorem head?_text (schema : Schema) (predicate : Predicate) :
    ∃ head, (text schema predicate).toList.head? = some head ∧ head ≠ 'C' := by
  cases predicate with
  | leaf atom =>
    cases atom with
    | always =>
      rw [text, Atom.text]
      exact ⟨'1', rfl, by decide⟩
    | carries id =>
      have sum : "SUM".toList.head? = some 'S' := rfl
      rw [text, Atom.text_carries]
      exact ⟨'S', head?_append sum, by decide⟩
    | carriesFamily index =>
      have existing : "EXISTS ".toList.head? = some 'E' := rfl
      rw [text, Atom.text_carriesFamily]
      exact ⟨'E', head?_append existing, by decide⟩
  | and left right | or left right =>
    have opening : "(".toList.head? = some '(' := rfl
    rw [text]
    exact ⟨'(', head?_append (head?_append (head?_append (head?_append opening))), by decide⟩
  | not inner =>
    have negating : "NOT (".toList.head? = some 'N' := rfl
    rw [text]
    exact ⟨'N', head?_append (head?_append negating), by decide⟩

/-- A predicate has in its text the identifiers that its leaves test for. -/
theorem inlines (named : schema.Named) (predicate : Predicate) :
    Inlines schema.testStart (text schema predicate) (predicate.leaves.filterMap Atom.id?) := by
  have closing : Inlines schema.testStart ")" [] := .of_free (by decide)
  have opened {inner : Predicate} {ids : List TagId}
      (inlines : Inlines schema.testStart (text schema inner) ids) :
      Inlines schema.testStart ("(" ++ text schema inner) ids := by
    obtain ⟨head, begins, other⟩ := head?_text schema inner
    exact inlines.opened begins schema.head?_testStart other
  have joined {word : String} {left right : Predicate} {ids more : List TagId}
      (free : '(' ∉ word.toList) (one : Inlines schema.testStart (text schema left) ids)
      (other : Inlines schema.testStart (text schema right) more) :
      Inlines schema.testStart ("(" ++ text schema left ++ word ++ text schema right ++ ")")
        (ids ++ more) := by
    have whole := (((opened one).append (.of_free free)).append other).append closing
    rwa [List.append_nil, List.append_nil] at whole
  induction predicate with
  | leaf atom =>
    have alone : [atom].filterMap Atom.id? = atom.id?.toList := by cases atom <;> rfl
    rw [Formula.leaves, alone]
    exact atom.inlines named
  | and left right leftInlines rightInlines =>
    rw [text, Formula.leaves, List.filterMap_append]
    exact joined (by decide) leftInlines rightInlines
  | or left right leftInlines rightInlines =>
    rw [text, Formula.leaves, List.filterMap_append]
    exact joined (by decide) leftInlines rightInlines
  | not inner innerInlines =>
    have before : Inlines schema.testStart "NOT " [] := .of_free (by decide)
    have whole := (before.append (opened innerInlines)).append closing
    have cut : "NOT (" = "NOT " ++ "(" := rfl
    rw [List.append_nil, List.nil_append, ← String.append_assoc, ← cut] at whole
    rw [text]
    exact whole

end Predicate

namespace Schema

variable {schema : Schema} {compiled : CompiledFilter} {window : PageWindow} {dialect : Dialect}
  {params : Params} {bound : PositionalStatement}

private theorem inlines_totalItem (schema : Schema) : Inlines schema.testStart totalItem [] := by
  have count : Inlines schema.testStart "COUNT" [] := .of_free (by decide)
  have all : Inlines schema.testStart "*) OVER" [] := .of_free (by decide)
  have name : Inlines schema.testStart ") AS __total" [] := .of_free (by decide)
  have counted := count.append (all.opened rfl schema.head?_testStart (by decide))
  have whole := counted.append (name.opened rfl schema.head?_testStart (by decide))
  have item : totalItem = "COUNT" ++ ("(" ++ "*) OVER") ++ ("(" ++ ") AS __total") := rfl
  rw [item]
  exact whole

private theorem inlines_order (named : schema.Named) (order : ListingOrder) (dialect : Dialect) :
    Inlines schema.testStart (order.text schema.entity dialect) [] := by
  have idColumn := free_of_name named.idColumn
  have createdColumn := free_of_name named.createdColumn
  obtain ⟨_ | _, direction⟩ := order
  · have word : '(' ∉ direction.keyword.toList := by cases direction <;> decide
    apply Inlines.of_free
    unfold ListingOrder.text
    simp +decide only [String.toList_append, List.mem_append, idColumn, createdColumn, word]
  · have random : Inlines schema.testStart "RANDOM" [] := .of_free (by decide)
    have closing : Inlines schema.testStart ")" [] := .of_free (by decide)
    have function : ListingOrder.text ⟨.random, direction⟩ schema.entity dialect =
        "RANDOM" ++ ("(" ++ ")") := by
      cases dialect <;> rfl
    rw [function]
    exact random.append (closing.opened rfl schema.head?_testStart (by decide))

/-- A listing has no identifiers in its text but those of its predicate. -/
theorem inlines_listingText (named : schema.Named) (predicate : Predicate) (order : ListingOrder)
    (dialect : Dialect) :
    Inlines schema.testStart (schema.listingText predicate (order.text schema.entity dialect))
      (predicate.leaves.filterMap Atom.id?) := by
  have table := free_of_name named.entityTable
  have idColumn := free_of_name named.idColumn
  have associationTable := free_of_name named.associationTable
  have entityColumn := free_of_name named.entityColumn
  have ids : predicate.leaves.filterMap Atom.id? =
      [[], [], [], [], predicate.leaves.filterMap Atom.id?, [], [], []].flatten := by simp
  rw [ids]
  refine .intercalate (by decide) (.cons ?columns (.cons ?source (.cons ?joins (.cons ?grouping
    (.cons ?groups (.cons ?ordering (.cons ?limit (.cons ?offset .nil))))))))
  case columns =>
    have select : Inlines schema.testStart "SELECT " [] := .of_free (by decide)
    refine select.append (.commaList fun item member => ?_)
    rcases List.mem_append.mp member with column | total
    · obtain ⟨name, inside, rfl⟩ := List.mem_map.mp column
      apply Inlines.of_free
      simp +decide only [String.toList_append, List.mem_append,
        free_of_name (named.columns name inside)]
    · rw [List.mem_singleton.mp total]
      exact inlines_totalItem schema
  case groups =>
    have having : Inlines schema.testStart "HAVING " [] := .of_free (by decide)
    exact having.append (predicate.inlines named)
  case ordering =>
    have orderBy : Inlines schema.testStart "ORDER BY " [] := .of_free (by decide)
    exact orderBy.append (inlines_order named order dialect)
  all_goals
    apply Inlines.of_free
    simp +decide only [String.toList_append, List.mem_append, table, idColumn, associationTable,
      entityColumn]

/-- The identifiers that an executed listing tests for are those of its predicate. -/
theorem readEach_listing (checked : schema.check = .ok ())
    (binds : (schema.listEntities compiled window).statement.bind dialect params = .ok bound) :
    TagId.readEach schema.testStart.toList bound.sql.toList =
      compiled.predicate.leaves.filterMap Atom.id? := by
  have named := named_of_check checked
  have whole := inlines_listingText named compiled.predicate compiled.order dialect []
  have usual := List.all_eq_true.mp (Plain.append_iff.mpr ⟨Plain.append_iff.mpr
    ⟨by decide, Plain.of_isQualifiedIdentifier named.tagColumn⟩, by decide⟩ : Plain schema.testStart)
  have free : '$' ∉ schema.testStart.toList := fun member => absurd (usual _ member) (by decide)
  have unmarked : '?' ∉ schema.testStart.toList := fun member => absurd (usual _ member) (by decide)
  obtain ⟨order, shown⟩ := Statement.toList_sql_of_bind binds
  rw [shown, TagId.readEach_bound free unmarked, text_listEntities]
  simpa [TagId.readEach] using whole

end Schema

end TagQuery
