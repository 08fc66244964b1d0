import TagQuery.Proofs.Statement.Frame
import TagQuery.Statement.Text

/-! A statement stays within its lexical frame when each text that it is written from does. -/

namespace TagQuery

variable {escapes : Bool}

/-- Every text that the query is written from is in its frame. -/
structure Select.InFrame (escapes : Bool) (statement : Select) : Prop where
  columns : ∀ text ∈ statement.columns, Framed escapes 0 0 text
  source : Framed escapes 0 0 statement.source
  joins : ∀ join ∈ statement.joins,
    Framed escapes 0 0 join.table ∧ Framed escapes 0 0 join.condition
  condition : ∀ text ∈ statement.condition, Framed escapes 0 0 text
  grouping : ∀ text ∈ statement.grouping, Framed escapes 0 0 text
  groupCondition : ∀ text ∈ statement.groupCondition, Framed escapes 0 0 text
  order : ∀ item ∈ statement.order, ∀ text, item.key = .column text → Framed escapes 0 0 text
  limit : ∀ bound ∈ statement.limit, Framed escapes 0 0 bound.text
  offset : ∀ bound ∈ statement.offset, Framed escapes 0 0 bound.text

def ConflictAction.InFrame (escapes : Bool) : ConflictAction → Prop
  | .doNothing => True
  | .update target assignments =>
    (∀ text ∈ target, Framed escapes 0 0 text) ∧ ∀ assignment ∈ assignments,
      Framed escapes 0 0 assignment.1 ∧ Framed escapes 0 0 assignment.2

structure Insert.InFrame (escapes : Bool) (statement : Insert) : Prop where
  table : Framed escapes 0 0 statement.table
  columns : ∀ text ∈ statement.columns, Framed escapes 0 0 text
  rows : ∀ row ∈ statement.rows, ∀ text ∈ row, Framed escapes 0 0 text
  onConflict : ∀ action ∈ statement.onConflict, action.InFrame escapes
  returning : ∀ text ∈ statement.returning, Framed escapes 0 0 text

structure Delete.InFrame (escapes : Bool) (statement : Delete) : Prop where
  table : Framed escapes 0 0 statement.table
  condition : ∀ text ∈ statement.condition, Framed escapes 0 0 text

def Statement.InFrame (escapes : Bool) : Statement → Prop
  | .select statement => statement.InFrame escapes
  | .insert statement => statement.InFrame escapes
  | .delete statement => statement.InFrame escapes

private theorem framed_commaList {items : List String}
    (framed : ∀ item ∈ items, Framed escapes 0 0 item) : Framed escapes 0 0 (commaList items) :=
  .intercalate (.of_calm (by decide)) framed

private theorem framed_tuple {items : List String}
    (framed : ∀ item ∈ items, Framed escapes 0 0 item) : Framed escapes 0 0 (tuple items) :=
  (framed_commaList framed).enclosed

private theorem framed_clauses {pieces : List String}
    (framed : ∀ piece ∈ pieces, Framed escapes 0 0 piece) :
    Framed escapes 0 0 (" ".intercalate pieces) :=
  .intercalate (.of_calm (by decide)) framed

/-- What is held by a clause keeps its frame. -/
private theorem framed_clause {keyword : String} (calm : Calm 0 0 keyword) {content : Option String}
    (framed : ∀ text ∈ content, Framed escapes 0 0 text) :
    ∀ piece ∈ clause? keyword content, Framed escapes 0 0 piece := by
  cases content with
  | none => exact List.forall_mem_nil _
  | some text =>
    have space : Framed escapes 0 0 " " := .of_calm (by decide)
    have whole := ((Framed.of_calm calm).append space).append (framed text rfl)
    exact List.forall_mem_singleton.mpr whole

private theorem framed_join {join : Join} (table : Framed escapes 0 0 join.table)
    (condition : Framed escapes 0 0 join.condition) : Framed escapes 0 0 join.text := by
  have keyword : Framed escapes 0 0 (join.kind.keyword ++ " JOIN ") := by
    cases join.kind <;> exact .of_calm (by decide)
  have on : Framed escapes 0 0 " ON " := .of_calm (by decide)
  exact ((keyword.append table).append on).append condition

private theorem framed_orderItem (dialect : Dialect) {item : OrderItem}
    (framed : ∀ text, item.key = .column text → Framed escapes 0 0 text) :
    Framed escapes 0 0 (item.text dialect) := by
  obtain ⟨key, direction, nulls⟩ := item
  cases key with
  | random =>
    have call : Calm 0 0 dialect.randomFunction := by cases dialect <;> decide
    exact .of_calm call
  | column text =>
    have words : ∀ word ∈ (direction.map Direction.keyword).toList ++
        (nulls.map NullsPlace.keyword).toList, Calm 0 0 word := by
      rcases direction with _ | _ | _ <;> rcases nulls with _ | _ | _ <;> decide
    exact framed_clauses (List.forall_mem_cons.mpr
      ⟨framed text rfl, fun word member => .of_calm (words word member)⟩)

/-- Items that are each written in their frame. -/
private theorem framed_map {α : Type} {items : List α} {write : α → String}
    (framed : ∀ item ∈ items, Framed escapes 0 0 (write item)) :
    ∀ text ∈ items.map write, Framed escapes 0 0 text :=
  List.forall_mem_map.mpr framed

private theorem framed_option_map {α : Type} {content : Option α} {write : α → String}
    (framed : ∀ held ∈ content, Framed escapes 0 0 (write held)) :
    ∀ text ∈ content.map write, Framed escapes 0 0 text := by
  cases content with
  | none => exact fun _ absent => by cases absent
  | some held =>
    rintro _ ⟨⟩
    exact framed held rfl

theorem Select.framed_text (dialect : Dialect) {statement : Select}
    (framed : statement.InFrame escapes) : Framed escapes 0 0 (statement.text dialect) := by
  have select : Framed escapes 0 0 "SELECT " := .of_calm (by decide)
  have before : Framed escapes 0 0 "FROM " := .of_calm (by decide)
  have joins := framed_map fun join member =>
    framed_join (framed.joins join member).1 (framed.joins join member).2
  have order : ∀ text ∈ statement.orderText? dialect, Framed escapes 0 0 text := by
    have items := framed_map fun item member => framed_orderItem dialect (framed.order item member)
    unfold orderText?
    split
    · exact fun _ absent => by cases absent
    · rintro _ ⟨⟩
      exact framed_commaList items
  apply framed_clauses
  simp only [clauses, List.forall_mem_append, List.forall_mem_cons]
  exact ⟨⟨⟨⟨⟨⟨⟨⟨select.append (framed_commaList framed.columns), before.append framed.source,
    List.forall_mem_nil _⟩, joins⟩, framed_clause (by decide) framed.condition⟩,
    framed_clause (by decide) framed.grouping⟩, framed_clause (by decide) framed.groupCondition⟩,
    framed_clause (by decide) order⟩, framed_clause (by decide) (framed_option_map framed.limit)⟩,
    framed_clause (by decide) (framed_option_map framed.offset)⟩

private theorem framed_conflictAction {action : ConflictAction}
    (framed : action.InFrame escapes) : Framed escapes 0 0 action.text := by
  cases action with
  | doNothing => exact .of_calm (by decide)
  | update target assignments =>
    obtain ⟨targets, values⟩ := framed
    have update : Framed escapes 0 0 "DO UPDATE SET " := .of_calm (by decide)
    have equals : Framed escapes 0 0 " = " := .of_calm (by decide)
    have space : Framed escapes 0 0 " " := .of_calm (by decide)
    have written := framed_map fun assignment member =>
      ((values assignment member).1.append equals).append (values assignment member).2
    have action := update.append (framed_commaList written)
    unfold ConflictAction.text
    dsimp only
    split
    · exact action
    · exact ((framed_tuple targets).append space).append action

theorem Insert.framed_text {statement : Insert} (framed : statement.InFrame escapes) :
    Framed escapes 0 0 statement.text := by
  have insert : Framed escapes 0 0 "INSERT INTO " := .of_calm (by decide)
  have space : Framed escapes 0 0 " " := .of_calm (by decide)
  have values : Framed escapes 0 0 "VALUES " := .of_calm (by decide)
  have tuples := framed_map fun row member => framed_tuple (framed.rows row member)
  have resolved := framed_option_map fun action member =>
    framed_conflictAction (framed.onConflict action member)
  have returned : ∀ text ∈ statement.returningText?, Framed escapes 0 0 text := by
    unfold returningText?
    split
    · exact fun _ absent => by cases absent
    · rintro _ ⟨⟩
      exact framed_commaList framed.returning
  apply framed_clauses
  simp only [clauses, List.forall_mem_append, List.forall_mem_cons]
  exact ⟨⟨⟨((insert.append framed.table).append space).append (framed_tuple framed.columns),
    values.append (framed_commaList tuples), List.forall_mem_nil _⟩,
    framed_clause (by decide) resolved⟩, framed_clause (by decide) returned⟩

theorem Delete.framed_text {statement : Delete} (framed : statement.InFrame escapes) :
    Framed escapes 0 0 statement.text := by
  have delete : Framed escapes 0 0 "DELETE FROM " := .of_calm (by decide)
  apply framed_clauses
  exact List.forall_mem_cons.mpr ⟨delete.append framed.table,
    framed_clause (by decide) framed.condition⟩

/-- A statement stays in the frame that each of its fragments stays in. -/
theorem Statement.framed_text (dialect : Dialect) {statement : Statement}
    (framed : statement.InFrame escapes) : Framed escapes 0 0 (statement.text dialect) := by
  cases statement with
  | select statement => exact statement.framed_text dialect framed
  | insert statement => exact statement.framed_text framed
  | delete statement => exact statement.framed_text framed

end TagQuery
