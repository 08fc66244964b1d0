import TagQuery.Proofs.Catalog.TagStore
import TagQuery.Proofs.Listing.Complete
import TagQuery.Proofs.Listing.Identifiers

/-! Tables in the process that run the statements of the schema with the usual names, and
that they are a store. -/

namespace TagQuery

structure ResidentTables where
  contents : Contents := {}

namespace ResidentTables

/-- The rows of an insert of tags, three values for each. -/
def drafts : List Value → List TagDraft
  | .text key :: .null :: .text type :: rest => ⟨⟨key, none⟩, ⟨type⟩⟩ :: drafts rest
  | .text key :: .text value :: .text type :: rest => ⟨⟨key, some value⟩, ⟨type⟩⟩ :: drafts rest
  | _ => []

/-- The records of those drafts whose signatures are not stored, numbered on. -/
def missing (contents : Contents) (drafts : List TagDraft) : List StoredTag :=
  (drafts.filter fun draft => draft.tag.signature ∉ contents.signatures).mapIdx fun index draft =>
    { id := ⟨Int64.ofNat (contents.tags.length + index + 1)⟩
      key := draft.tag.key
      value := draft.tag.value
      type := draft.type }

def row (record : StoredTag) : Row :=
  ⟨[("id", .ofTagId record.id), ("key", .text record.key), ("value", .ofText? record.value),
    ("type", .text record.type.name)]⟩

def allTags : PositionalStatement :=
  ⟨"SELECT t.id, t.key, t.value, t.type FROM tags t ORDER BY t.id ASC", []⟩

def attachStart : String := "INSERT INTO entity_tags (entity_id, tag_id) VALUES ($1, "

def detachStart : String := "DELETE FROM entity_tags WHERE entity_id = $1 AND tag_id = "

instance : Executor ResidentTables where
  query statement := .ofFunction fun tables =>
    if statement.sql.toList.head? = some 'I' then
      let created := missing tables.contents (drafts statement.values)
      (.ok (created.map row),
        ⟨{ tables.contents with tags := tables.contents.tags ++ created }⟩)
    else (.ok (if statement = allTags then tables.contents.tags.map row else []), tables)
  execute statement := .ofFunction fun tables =>
    if statement.sql.toList.head? = some 'I' then
      match statement.values, TagId.readAfter? attachStart.toList statement.sql.toList with
      | [.integer entity], some id =>
        (.ok (tables.contents.added entity id), ⟨tables.contents.attach entity id⟩)
      | _, _ => (.error (.driver "syntax error"), tables)
    else
      match statement.values, TagId.readAfter? detachStart.toList statement.sql.toList with
      | [.integer entity], some id =>
        (.ok (tables.contents.removed entity id), ⟨tables.contents.detach entity id⟩)
      | _, _ => (.error (.driver "syntax error"), tables)

theorem readRow_row (record : StoredTag) : readRow (row record) = .ok record := by
  obtain ⟨id, key, _ | value, type⟩ := record <;> rfl

theorem mapM_readRow_map_row (records : List StoredTag) :
    (records.map row).mapM readRow = .ok records := by
  have read := Outcome.mapM_ok_of_forall fun record (_ : record ∈ records) => readRow_row record
  rw [List.map_id'] at read
  rwa [List.mapM_map]

theorem map_draft_missing (contents : Contents) (drafts : List TagDraft) :
    (missing contents drafts).map StoredTag.draft =
      drafts.filter fun draft => draft.tag.signature ∉ contents.signatures := by
  apply List.ext_getElem
  · simp [missing]
  · intro index inside _
    simp [missing, StoredTag.draft, StoredTag.tag]

theorem drafts_values (tags : List TagDraft) : drafts (tags.flatMap fun new =>
    [.text new.tag.key, .ofText? new.tag.value, .text new.type.name]) = tags := by
  induction tags with
  | nil => rfl
  | cons first rest ih =>
    obtain ⟨⟨key, _ | value⟩, ⟨type⟩⟩ := first <;> exact congrArg (_ :: ·) ih

/-- Bound text begins as the text did. -/
private theorem head?_sql {statement : Statement} {dialect : Dialect} {params : Params}
    {bound : PositionalStatement} {first : Char} {rest : List Char}
    (shown : (statement.text dialect).toList = first :: rest) (visible : first ≠ '\'')
    (dollar : first ≠ '$') (binds : statement.bind dialect params = .ok bound) :
    bound.sql.toList.head? = some first := by
  obtain ⟨order, sql⟩ := Statement.toList_sql_of_bind binds
  rw [sql, shown, Lexeme.scan_plain visible dollar]
  rfl

private theorem toList_text_select (select : Select) :
    ∃ rest, ((Statement.select select).text .postgres).toList = 'S' :: rest := by
  have clauses : (Statement.select select).text .postgres =
      " ".intercalate (select.clauses .postgres) := rfl
  rw [clauses, Select.clauses]
  simp only [List.cons_append, List.nil_append, String.intercalate_cons_cons,
    String.toList_append, List.append_assoc]
  exact ⟨_, rfl⟩

private theorem toList_text_insert (insert : Insert) :
    ∃ rest, ((Statement.insert insert).text .postgres).toList = 'I' :: rest := by
  have clauses : (Statement.insert insert).text .postgres = " ".intercalate insert.clauses := rfl
  rw [clauses, Insert.clauses]
  simp only [List.cons_append, List.nil_append, String.intercalate_cons_cons,
    String.toList_append, List.append_assoc]
  exact ⟨_, rfl⟩

/-- A listing is a query that changes nothing. -/
private theorem reads_of_select (tables : ResidentTables) {prepared : Prepared} {select : Select}
    {bound : PositionalStatement} (shape : prepared.statement = .select select)
    (binds : prepared.Binds .postgres bound) :
    ∃ rows after, (Executor.query bound).runFrom tables = (.ok rows, after) ∧
      after.contents = tables.contents := by
  obtain ⟨rest, shown⟩ := toList_text_select select
  rw [← shape] at shown
  have head := head?_sql shown (by decide) (by decide) binds
  refine ⟨if bound = allTags then tables.contents.tags.map row else [], tables, ?_, rfl⟩
  change (if bound.sql.toList.head? = some 'I' then _ else _) = _
  rw [head, if_neg (by decide)]

private theorem inserts (tables : ResidentTables) {tags : List TagDraft}
    {bound : PositionalStatement} (binds : (({} : Schema).insertTags tags).Binds .postgres bound) :
    (Executor.query bound).runFrom tables = (.ok ((missing tables.contents tags).map row),
      ⟨{ tables.contents with tags := tables.contents.tags ++ missing tables.contents tags }⟩) := by
  obtain ⟨other, binds', values, _⟩ := Schema.bindsInOrder_insertTags Schema.check_usual
    .postgres tags
  obtain rfl := Except.ok.inj (binds'.symm.trans binds)
  obtain ⟨rest, shown⟩ := toList_text_insert _
  have head := head?_sql shown (by decide) (by decide) binds
  change (if other.sql.toList.head? = some 'I' then _ else _) = _
  rw [head, if_pos rfl, values, values_insertTags, drafts_values]

private theorem attaches (tables : ResidentTables) (entity : Int64) (id : TagId) :
    (Executor.execute (({} : Schema).attachment .postgres entity id)).runFrom tables =
      (.ok (tables.contents.added entity id), ⟨tables.contents.attach entity id⟩) := by
  have start : ({} : Schema).attachStart .postgres = attachStart := by decide
  have found := Schema.readAfter?_attachment {} .postgres entity id
  rw [start] at found
  have head : (({} : Schema).attachment .postgres entity id).sql.toList.head? = some 'I' := by
    rw [Schema.attachment, start, String.toList_append, String.toList_append]
    rfl
  simp only [Executor.execute, Action.runFrom_ofFunction]
  rw [if_pos head, found]
  rfl

private theorem detaches (tables : ResidentTables) (entity : Int64) (id : TagId) :
    (Executor.execute (({} : Schema).detachment .postgres entity id)).runFrom tables =
      (.ok (tables.contents.removed entity id), ⟨tables.contents.detach entity id⟩) := by
  have start : ({} : Schema).detachStart .postgres = detachStart := by decide
  have found := Schema.readAfter?_detachment {} .postgres entity id
  rw [start] at found
  have head : (({} : Schema).detachment .postgres entity id).sql.toList.head? = some 'D' := by
    rw [Schema.detachment, start, String.toList_append]
    rfl
  simp only [Executor.execute, Action.runFrom_ofFunction, head]
  rw [if_neg (by decide), found]
  rfl

/-- The tables are a store for the schema with the usual names. -/
def tagStore : TagStore {} ResidentTables where
  contents tables := tables.contents
  insert := by
    intro tables drafts bound valid distinct binds
    refine ⟨_, missing tables.contents drafts, _, inserts tables binds, ?_, ?_, rfl⟩
    · exact mapM_readRow_map_row _
    · exact .of_eq (map_draft_missing tables.contents drafts)
  listAll := by
    intro tables bound binds
    have all : ({} : Schema).listAllTags.statement.bind .postgres ({} : Schema).listAllTags.params =
        .ok allTags := by
      decide +kernel
    obtain rfl := Except.ok.inj (binds.symm.trans all)
    refine ⟨tables.contents.tags.map row, tables.contents.tags, tables, ?_, ?_, .refl _, rfl⟩
    · have head : allTags.sql.toList.head? = some 'S' := rfl
      simp [Executor.query, head]
    · exact mapM_readRow_map_row _
  listEntities := fun tables => reads_of_select tables rfl
  listTags := fun tables => reads_of_select tables rfl
  listEntityTags := fun tables => reads_of_select tables rfl
  attach := by
    intro tables entity id bound binds
    have bound' := Schema.bind_attach Schema.check_usual .postgres entity id
    obtain rfl := Except.ok.inj (binds.symm.trans bound')
    exact ⟨_, attaches tables entity id, rfl⟩
  detach := by
    intro tables entity id bound binds
    have bound' := Schema.bind_detach Schema.check_usual .postgres entity id
    obtain rfl := Except.ok.inj (binds.symm.trans bound')
    exact ⟨_, detaches tables entity id, rfl⟩

end ResidentTables

end TagQuery
