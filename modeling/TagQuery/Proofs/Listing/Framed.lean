import TagQuery.IdCache.Resident
import TagQuery.Proofs.Listing.Bound
import TagQuery.Proofs.Statement.Framed

/-! Nothing that a caller can have made leaves its lexical frame, whatever tags, numbers and
names it was made from. -/

namespace TagQuery

variable {escapes : Bool} {schema : Schema} (named : schema.Named)

section Predicates

include named

theorem Atom.framed_text (atom : Atom) : Framed escapes 0 0 (atom.text schema) := by
  have name {text : String} (valid : Text.isQualifiedIdentifier text) (depth : Nat) :
      Framed escapes depth depth text := .name valid
  have calm {enter leave : Nat} {text : String} (calm : Calm enter leave text) :
      Framed escapes enter leave text := .of_calm calm
  cases atom with
  | always => exact calm (show Calm 0 0 "1=1" by decide)
  | carries id =>
    have column : Framed escapes 0 1 ("SUM(CASE WHEN et." ++ schema.association.tagColumn) :=
      (calm (by decide)).append (name named.tagColumn 1)
    have test := (column.append (calm (show Calm 1 1 " = " by decide))).append (.id id)
    exact test.append (calm (by decide))
  | carriesFamily index =>
    have tables : Framed escapes 0 1 ("EXISTS (SELECT 1 FROM " ++ schema.association.table ++
        " fet INNER JOIN " ++ schema.tags.table) :=
      (((calm (show Calm 0 1 _ by decide)).append (name named.associationTable 1)).append
        (calm (by decide))).append (name named.tagTable 1)
    have joined := ((tables.append (calm (show Calm 1 1 " ft ON ft.id = fet." by decide))).append
      (name named.tagColumn 1)).append (calm (show Calm 1 1 " WHERE fet." by decide))
    have entity := ((joined.append (name named.entityColumn 1)).append
      (calm (show Calm 1 1 " = e." by decide))).append (name named.idColumn 1)
    have family : Framed escapes 1 1 (familyParameter index) :=
      (calm (show Calm 1 1 "family_" by decide)).append (.digits (Number.all_isDigit_writeNat index))
    exact ((entity.append (calm (show Calm 1 1 " AND ft.key = $" by decide))).append family).append
      (calm (by decide))

theorem Predicate.framed_text (predicate : Predicate) :
    Framed escapes 0 0 (predicate.text schema) := by
  induction predicate with
  | leaf atom => exact atom.framed_text named
  | and left right framedLeft framedRight =>
    have between : Framed escapes 0 0 " AND " := .of_calm (by decide)
    have pair : Framed escapes 0 0 _ := ((framedLeft.append between).append framedRight).enclosed
    simpa [text, String.append_assoc] using pair
  | or left right framedLeft framedRight =>
    have between : Framed escapes 0 0 " OR " := .of_calm (by decide)
    have pair : Framed escapes 0 0 _ := ((framedLeft.append between).append framedRight).enclosed
    simpa [text, String.append_assoc] using pair
  | not inner framedInner =>
    have negation : Framed escapes 0 0 "NOT " := .of_calm (by decide)
    have negated := negation.append framedInner.enclosed
    rw [← String.append_assoc, ← String.append_assoc] at negated
    exact negated

end Predicates

section Statements

/-- A calm text before a qualified identifier. -/
private theorem framed_before {before text : String} (calm : Calm 0 0 before)
    (valid : Text.isQualifiedIdentifier text) : Framed escapes 0 0 (before ++ text) :=
  (Framed.of_calm calm).append (.name valid)

/-- A calm text after a qualified identifier. -/
private theorem framed_after {text after : String} (valid : Text.isQualifiedIdentifier text)
    (calm : Calm 0 0 after) : Framed escapes 0 0 (text ++ after) :=
  (Framed.name valid).append (.of_calm calm)

private theorem framed_calm {texts : List String} (calm : ∀ text ∈ texts, Calm 0 0 text) :
    ∀ text ∈ texts, Framed escapes 0 0 text :=
  fun text member => .of_calm (calm text member)

private theorem framed_limit : Framed escapes 0 0 (RowBound.parameter "limit").text :=
  .of_calm (by decide)

private theorem framed_offset : Framed escapes 0 0 (RowBound.parameter "offset").text :=
  .of_calm (by decide)

private theorem framed_tagItems : ∀ text ∈ tagItems, Framed escapes 0 0 text :=
  framed_calm (by decide)

private theorem framed_tagOrder : ∀ item ∈ tagOrder, ∀ text, item.key = .column text →
    Framed escapes 0 0 text := by
  simp only [tagOrder, columnOrder, List.forall_mem_cons, OrderKey.column.injEq, forall_eq']
  exact ⟨.of_calm (by decide), .of_calm (by decide), List.forall_mem_nil _⟩

/-- A search for tags is the one text that names an escape character. -/
private theorem framed_tagCondition (query : Tag) :
    Framed true 0 0 (schema.tagCondition query) := by
  have operator : Framed true 0 0 schema.dialect.matchOperator := by
    have calm : Calm 0 0 schema.dialect.matchOperator := by cases schema.dialect <;> decide
    exact .of_calm calm
  have escaped {before : String} (calm : Calm 0 0 before) :
      Framed true 0 0 (before ++ escapeClause) := by
    have clause : Framed true 0 0 escapeClause := .escape rfl .done
    exact (Framed.of_calm calm).append clause
  unfold Schema.tagCondition
  cases query.value with
  | none =>
    have key : Framed true 0 0 "t.key " := .of_calm (by decide)
    exact (key.append operator).append (escaped (show Calm 0 0 " $key_pattern" by decide))
  | some value =>
    have key : Framed true 0 0 "t.key = $tag_key AND t.value " := .of_calm (by decide)
    exact (key.append operator).append (escaped (show Calm 0 0 " $value_pattern" by decide))

section Named

include named

private theorem framed_associationJoin (kind : JoinKind) {short key column : String} (calm : Calm 0 0 short)
    (framedKey : Framed escapes 0 0 key) (valid : Text.isQualifiedIdentifier column) :
    Framed escapes 0 0 (schema.association.join kind short key column).table ∧
      Framed escapes 0 0 (schema.association.join kind short key column).condition := by
  have space : Framed escapes 0 0 " " := .of_calm (by decide)
  have equals : Framed escapes 0 0 " = " := .of_calm (by decide)
  have dot : Framed escapes 0 0 "." := .of_calm (by decide)
  have short : Framed escapes 0 0 short := .of_calm calm
  exact ⟨((Framed.name named.associationTable).append space).append short,
    (((framedKey.append equals).append short).append dot).append (.name valid)⟩

theorem inFrame_listEntities (compiled : CompiledFilter) (window : PageWindow) :
    (schema.listEntities compiled window).statement.InFrame escapes := by
  have key : Framed escapes 0 0 ("e." ++ schema.entity.idColumn) :=
    framed_before (by decide) named.idColumn
  have created : Framed escapes 0 0 ("e." ++ schema.entity.createdColumn) :=
    framed_before (by decide) named.createdColumn
  refine Select.InFrame.mk ?_ ?_ ?_ ?_ ?_ ?_ ?_ ?_ ?_
  · simp only [List.forall_mem_append, List.forall_mem_singleton, List.forall_mem_map]
    exact ⟨fun column member => framed_before (by decide) (named.columns column member),
      .of_calm (by decide)⟩
  · exact framed_after named.entityTable (by decide)
  · simpa using framed_associationJoin named .left (show Calm 0 0 "et" by decide) key named.entityColumn
  · simp
  · simpa using key
  · simpa using compiled.predicate.framed_text named
  · unfold ListingOrder.orderItems
    split
    · simp
    · simpa using ⟨created, key⟩
  · simpa using framed_limit
  · simpa using framed_offset

/-- The number of entities that carry a tag, by the association table under a short name. -/
private theorem framed_usage {before : String} (calm : Calm 0 1 before) :
    Framed escapes 0 0 (before ++ schema.association.entityColumn ++ ") AS usage_count") :=
  ((Framed.of_calm calm).append (.name named.entityColumn)).append (.of_calm (by decide))

theorem inFrame_listTags (query : Tag) (window : PageWindow) :
    (schema.listTags query window).statement.InFrame true := by
  have id : Framed true 0 0 "t.id" := .of_calm (by decide)
  refine Select.InFrame.mk ?_ ?_ ?_ ?_ ?_ ?_ ?_ ?_ ?_
  · simp only [List.forall_mem_append, List.forall_mem_cons]
    exact ⟨framed_tagItems, framed_usage named (by decide), .of_calm (by decide),
      List.forall_mem_nil _⟩
  · exact framed_after named.tagTable (by decide)
  · simpa using framed_associationJoin named .left (show Calm 0 0 "et" by decide) id named.tagColumn
  · simpa using framed_tagCondition query
  · simpa using id
  · simp
  · simp only [List.forall_mem_cons, columnOrder, OrderKey.column.injEq, forall_eq']
    exact ⟨.of_calm (by decide), framed_tagOrder⟩
  · simpa using framed_limit
  · simpa using framed_offset

theorem inFrame_listEntityTags (entity : Int64) :
    (schema.listEntityTags entity).statement.InFrame escapes := by
  have id : Framed escapes 0 0 "t.id" := .of_calm (by decide)
  have condition : Framed escapes 0 0 ("et." ++ schema.association.entityColumn ++ " = $entity_id") :=
    (framed_before (by decide) named.entityColumn).append (.of_calm (by decide))
  refine Select.InFrame.mk ?_ ?_ ?_ ?_ ?_ ?_ framed_tagOrder ?_ ?_
  · simp only [List.forall_mem_append, List.forall_mem_singleton]
    exact ⟨framed_tagItems, framed_usage named (by decide)⟩
  · exact framed_after named.tagTable (by decide)
  · simpa using ⟨framed_associationJoin named .inner (show Calm 0 0 "et" by decide) id named.tagColumn,
      framed_associationJoin named .left (show Calm 0 0 "uc" by decide) id named.tagColumn⟩
  · simpa using condition
  · simpa using id
  · simp
  · simp
  · simp

theorem inFrame_listAllTags : schema.listAllTags.statement.InFrame escapes := by
  refine Select.InFrame.mk framed_tagItems ?_ ?_ ?_ ?_ ?_ ?_ ?_ ?_
  · exact framed_after named.tagTable (by decide)
  · simp
  · simp
  · simp
  · simp
  · simpa [columnOrder] using Framed.of_calm (show Calm 0 0 "t.id" by decide)
  · simp
  · simp

theorem inFrame_attach (entity : Int64) (id : TagId) :
    (schema.attach entity id).statement.InFrame escapes := by
  have slot : Framed escapes 0 0 "$entity_id" := .of_calm (by decide)
  refine Insert.InFrame.mk (.name named.associationTable) ?_ ?_ ?_ ?_
  · simpa using ⟨Framed.name named.entityColumn, Framed.name named.tagColumn⟩
  · simpa using ⟨slot, Framed.id id⟩
  · simp [ConflictAction.InFrame]
  · simp

theorem inFrame_detach (entity : Int64) (id : TagId) :
    (schema.detach entity id).statement.InFrame escapes := by
  have entity : Framed escapes 0 0 (schema.association.entityColumn ++ " = $entity_id AND ") :=
    framed_after named.entityColumn (by decide)
  have equals : Framed escapes 0 0 " = " := .of_calm (by decide)
  have condition := ((entity.append (.name named.tagColumn)).append equals).append (.id id)
  exact Delete.InFrame.mk (.name named.associationTable) (by simpa using condition)

theorem inFrame_insertTags (tags : List TagDraft) :
    (schema.insertTags tags).statement.InFrame escapes := by
  have row (index : Nat) : ∀ text ∈ Schema.draftRow index, Framed escapes 0 0 text := by
    have slot {column : String} (calm : Calm 0 0 ("$" ++ column ++ "_")) :
        Framed escapes 0 0 ("$" ++ Schema.rowParameter column index) := by
      rw [Schema.rowParameter, ← String.append_assoc, ← String.append_assoc]
      exact (Framed.of_calm calm).append (.digits (Number.all_isDigit_writeNat index))
    simp only [Schema.draftRow, List.map_cons, List.map_nil, List.forall_mem_cons]
    exact ⟨slot (by decide), slot (by decide), slot (by decide), List.forall_mem_nil _⟩
  refine Insert.InFrame.mk (.name named.tagTable) ?_ ?_ ?_ ?_
  · exact framed_calm (show ∀ text ∈ ["key", "value", "type"], Calm 0 0 text by decide)
  · exact List.forall_mem_map.mpr fun index _ => row index
  · simp [ConflictAction.InFrame]
  · exact framed_calm (show ∀ text ∈ tagColumns, Calm 0 0 text by decide)

end Named

end Statements

/-- Everything but a search for tags is in a frame without escape clauses. -/
private theorem Schema.Prepares.inFrame {prepared : Prepared} (named : schema.Named)
    (made : schema.Prepares prepared) :
    ∃ escapes, prepared.statement.InFrame escapes ∧
      (escapes = false ∨ ∃ query window, prepared = schema.listTags query window) := by
  cases made with
  | entities ran =>
    obtain ⟨compiled, _, _, last⟩ := Action.of_runFrom_bind_ok ran
    cases last
    exact ⟨false, inFrame_listEntities named compiled _, .inl rfl⟩
  | tags query window => exact ⟨true, inFrame_listTags named query window, .inr ⟨query, window, rfl⟩⟩
  | entityTags entity => exact ⟨false, inFrame_listEntityTags named entity, .inl rfl⟩
  | allTags => exact ⟨false, inFrame_listAllTags named, .inl rfl⟩
  | attachment ran =>
    obtain ⟨id, rfl⟩ := of_attachKnown_ok (congrArg Prod.fst ran)
    exact ⟨false, inFrame_attach named _ id, .inl rfl⟩
  | detachment ran =>
    obtain ⟨id, rfl⟩ := of_detachKnown_ok (congrArg Prod.fst ran)
    exact ⟨false, inFrame_detach named _ id, .inl rfl⟩
  | creation ran =>
    rw [(Schema.of_createTags_some ran).1]
    exact ⟨false, inFrame_insertTags named _, .inl rfl⟩

/-- What a caller can have made binds, and both its text and the bound text stay in one lexical
frame: printable ASCII without separators of statements, quoted names and comments, with balanced
parentheses, and without literals but the escape characters in a search for tags. -/
theorem Schema.Prepares.contained (checked : schema.check = .ok ()) {prepared : Prepared}
    (made : schema.Prepares prepared) (dialect : Dialect) :
    ∃ bound, prepared.statement.bind dialect prepared.params = .ok bound ∧
      ∀ text ∈ [prepared.statement.text dialect, bound.sql],
        Contained text.toList ∧ ∃ parts, EscapedBetween parts text.toList ∧
          (parts.length = 1 ∨ ∃ query window, prepared = schema.listTags query window) := by
  obtain ⟨bound, binds⟩ := made.binds checked dialect
  obtain ⟨escapes, inFrame, searches⟩ := made.inFrame (Schema.named_of_check checked)
  have framed := Statement.framed_text dialect inFrame
  have both : ∀ text ∈ [prepared.statement.text dialect, bound.sql], Framed escapes 0 0 text := by
    simp only [List.forall_mem_cons]
    exact ⟨framed, Statement.framed_bind framed binds, List.forall_mem_nil _⟩
  refine ⟨bound, binds, fun text member => ⟨Frames.toContained (both text member), ?_⟩⟩
  obtain ⟨parts, escaped, alone⟩ := Frames.escapedBetween (both text member)
  exact ⟨parts, escaped, searches.imp_left alone⟩

/-- The tag with the least of all identifiers is detached. -/
theorem Schema.Prepares.contained_least :
    let prepared := ({} : Schema).detach 1 ⟨Int64.minValue⟩
    ({} : Schema).check = .ok () ∧ ({} : Schema).Prepares prepared ∧
      ∃ bound, prepared.statement.bind .postgres prepared.params = .ok bound ∧
        ∀ text ∈ [prepared.statement.text .postgres, bound.sql],
          Contained text.toList ∧ ∃ parts, EscapedBetween parts text.toList ∧
            (parts.length = 1 ∨ ∃ query window, prepared = ({} : Schema).listTags query window) := by
  have checked := Schema.check_usual
  have ran : (({} : Schema).detachKnown 1 (.bare "jazz")).runFrom
      (⟨⟨[(⟨"jazz"⟩, ⟨Int64.minValue⟩)]⟩, true⟩ : ResidentCache) =
      (.ok (({} : Schema).detach 1 ⟨Int64.minValue⟩), ⟨⟨[(⟨"jazz"⟩, ⟨Int64.minValue⟩)]⟩, true⟩) :=
    rfl
  exact ⟨checked, .detachment ran, (Schema.Prepares.detachment ran).contained checked .postgres⟩

end TagQuery
