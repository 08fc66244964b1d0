import TagQuery.Proofs.Number.Decimal
import TagQuery.Proofs.Statement.Fragment
import TagQuery.Statement.Text

/-! The text of a statement has the slots of its fragments, in the order of its clauses. -/

namespace TagQuery

def Join.slotNames (join : Join) : List String :=
  slots join.table ++ slots join.condition

def OrderItem.slotNames (item : OrderItem) : List String :=
  match item.key with
  | .random => []
  | .column expression => slots expression

def RowBound.slotNames : RowBound → List String
  | .literal _ => []
  | .parameter name => [name]

/-- The slots of a fragment that may be missing. -/
def slotsOf (content : Option String) : List String := content.elim [] slots

def Select.slotNames (statement : Select) : List String :=
  statement.columns.flatMap slots ++ slots statement.source ++
    statement.joins.flatMap Join.slotNames ++ slotsOf statement.condition ++
    slotsOf statement.grouping ++ slotsOf statement.groupCondition ++
    statement.order.flatMap OrderItem.slotNames ++
    statement.limit.elim [] RowBound.slotNames ++ statement.offset.elim [] RowBound.slotNames

def ConflictAction.slotNames : ConflictAction → List String
  | .doNothing => []
  | .update target assignments =>
    target.flatMap slots ++ assignments.flatMap fun (column, value) => slots column ++ slots value

def Insert.slotNames (statement : Insert) : List String :=
  slots statement.table ++ statement.columns.flatMap slots ++
    (statement.rows.flatMap fun row => row.flatMap slots) ++
    statement.onConflict.elim [] ConflictAction.slotNames ++ statement.returning.flatMap slots

def Delete.slotNames (statement : Delete) : List String :=
  slots statement.table ++ slotsOf statement.condition

def Statement.slotNames : Statement → List String
  | .select statement => statement.slotNames
  | .insert statement => statement.slotNames
  | .delete statement => statement.slotNames

/-- A parameter is named by an identifier. -/
def RowBound.Named : RowBound → Prop
  | .literal _ => True
  | .parameter name => Text.isIdentifier name.toList

/-- Every fragment of the statement is sealed. -/
structure Select.Sound (allowed : Char → Bool) (statement : Select) : Prop where
  columns : ∀ text ∈ statement.columns, Sealed allowed text
  source : Sealed allowed statement.source
  joins : ∀ join ∈ statement.joins,
    Sealed allowed join.table ∧ Sealed allowed join.condition
  condition : ∀ text ∈ statement.condition, Sealed allowed text
  grouping : ∀ text ∈ statement.grouping, Sealed allowed text
  groupCondition : ∀ text ∈ statement.groupCondition, Sealed allowed text
  order : ∀ item ∈ statement.order, ∀ text, item.key = .column text → Sealed allowed text
  limit : ∀ bound ∈ statement.limit, bound.Named
  offset : ∀ bound ∈ statement.offset, bound.Named

def ConflictAction.Sound (allowed : Char → Bool) : ConflictAction → Prop
  | .doNothing => True
  | .update target assignments =>
    (∀ text ∈ target, Sealed allowed text) ∧ ∀ assignment ∈ assignments,
      Sealed allowed assignment.1 ∧ Sealed allowed assignment.2

structure Insert.Sound (allowed : Char → Bool) (statement : Insert) : Prop where
  table : Sealed allowed statement.table
  columns : ∀ text ∈ statement.columns, Sealed allowed text
  rows : ∀ row ∈ statement.rows, ∀ text ∈ row, Sealed allowed text
  onConflict : ∀ action ∈ statement.onConflict, action.Sound allowed
  returning : ∀ text ∈ statement.returning, Sealed allowed text

structure Delete.Sound (allowed : Char → Bool) (statement : Delete) : Prop where
  table : Sealed allowed statement.table
  condition : ∀ text ∈ statement.condition, Sealed allowed text

def Statement.Sound (allowed : Char → Bool) : Statement → Prop
  | .select statement => statement.Sound allowed
  | .insert statement => statement.Sound allowed
  | .delete statement => statement.Sound allowed

section Rendering

variable {allowed : Char → Bool} (permits : ∀ character, isUsual character → allowed character)
include permits

omit permits in
theorem flatMap_slots_eq_nil {texts : List String} (empty : ∀ text ∈ texts, Fragment allowed text []) :
    texts.flatMap slots = [] :=
  List.flatMap_eq_nil_iff.mpr fun text member => (empty text member).slots_eq

omit permits in
/-- Items that are each written as a fragment. -/
theorem fragments_map {α : Type} {items : List α} {write : α → String} {names : α → List String}
    (written : ∀ item ∈ items, Fragment allowed (write item) (names item)) :
    (∀ piece ∈ items.map write, Sealed allowed piece) ∧
      (items.map write).flatMap slots = items.flatMap names := by
  constructor
  · intro piece member
    obtain ⟨item, present, rfl⟩ := List.mem_map.mp member
    exact (written item present).sealed
  · rw [List.flatMap_map]
    exact List.flatMap_congr fun item present => (written item present).slots_eq

theorem fragment_commaList {items : List String} (items_sealed : ∀ item ∈ items, Sealed allowed item) :
    Fragment allowed (commaList items) (items.flatMap slots) :=
  .intercalate permits (by decide) items_sealed

theorem fragment_tuple {items : List String} (items_sealed : ∀ item ∈ items, Sealed allowed item) :
    Fragment allowed (tuple items) (items.flatMap slots) :=
  .enclosed permits (fragment_commaList permits items_sealed)

theorem fragment_clauses {pieces : List String}
    (pieces_sealed : ∀ piece ∈ pieces, Sealed allowed piece) :
    Fragment allowed (" ".intercalate pieces) (pieces.flatMap slots) :=
  .intercalate permits (by decide) pieces_sealed

theorem fragment_join {join : Join} (table : Sealed allowed join.table)
    (condition : Sealed allowed join.condition) : Fragment allowed join.text join.slotNames := by
  have keyword : Leads (join.kind.keyword ++ " JOIN ") := by
    cases join.kind <;> decide
  have on : Divides " ON " := by decide
  exact .joined permits on (.preceded permits keyword table) condition

theorem fragment_orderItem (dialect : Dialect) {item : OrderItem}
    (expression : ∀ text, item.key = .column text → Sealed allowed text) :
    Fragment allowed (item.text dialect) item.slotNames := by
  obtain ⟨key, direction, nulls⟩ := item
  cases key with
  | random =>
    have call : Fragment allowed dialect.randomFunction [] := by
      cases dialect <;> exact .of_plain permits (by decide)
    exact call
  | column text =>
    have words : ∀ word ∈ (direction.map Direction.keyword).toList ++
        (nulls.map NullsPlace.keyword).toList, Fragment allowed word [] := by
      intro word member
      rcases List.mem_append.mp member with first | second
      · rcases direction with _ | _ | _ <;> simp [Direction.keyword] at first <;> subst first <;>
          exact .of_plain permits (by decide)
      · rcases nulls with _ | _ | _ <;> simp [NullsPlace.keyword] at second <;> subst second <;>
          exact .of_plain permits (by decide)
    have whole := fragment_clauses permits (List.forall_mem_cons.mpr
      ⟨expression text rfl, fun word member => (words word member).sealed⟩)
    rw [List.flatMap_cons, flatMap_slots_eq_nil words, List.append_nil] at whole
    exact whole

theorem fragment_rowBound {bound : RowBound} (named : bound.Named) :
    Fragment allowed bound.text bound.slotNames := by
  cases bound with
  | literal count =>
    exact .of_plain permits (.of_digits (Number.all_isDigit_writeNat count.toNat))
  | parameter name => exact .slot named

/-- A clause is there when there is something for it to hold. -/
theorem fragments_clause (keyword : String) (plain : Plain keyword) {content : Option String}
    (held : ∀ text ∈ content, Sealed allowed text) :
    (∀ piece ∈ clause? keyword content, Sealed allowed piece) ∧
      (clause? keyword content).flatMap slots = slotsOf content := by
  cases content with
  | none => simp [clause?, slotsOf]
  | some text =>
    have space : Divides " " := by decide
    have whole := Fragment.joined permits space (.of_plain permits plain) (held text rfl)
    simpa [clause?, slotsOf] using ⟨whole.sealed, whole.slots_eq⟩

/-- The list of sort keys, when there is one. -/
theorem fragments_order (dialect : Dialect) {statement : Select}
    (sound : statement.Sound allowed) :
    (∀ text ∈ statement.orderText? dialect, Sealed allowed text) ∧
      slotsOf (statement.orderText? dialect) = statement.order.flatMap OrderItem.slotNames := by
  have items := fragments_map fun item member =>
    fragment_orderItem permits dialect (sound.order item member)
  have list := fragment_commaList permits items.1
  unfold Select.orderText?
  split
  · next empty => simp [slotsOf, empty]
  · rw [items.2] at list
    simpa [slotsOf] using ⟨list.sealed, list.slots_eq⟩

/-- A row count, when there is one. -/
theorem fragments_bound {bound : Option RowBound} (named : ∀ present ∈ bound, present.Named) :
    (∀ text ∈ bound.map RowBound.text, Sealed allowed text) ∧
      slotsOf (bound.map RowBound.text) = bound.elim [] RowBound.slotNames := by
  cases bound with
  | none => simp [slotsOf]
  | some present =>
    have written := fragment_rowBound permits (named present rfl)
    simpa [slotsOf] using ⟨written.sealed, written.slots_eq⟩

theorem Select.fragment_text (dialect : Dialect) {statement : Select}
    (sound : statement.Sound allowed) :
    Fragment allowed (statement.text dialect) statement.slotNames := by
  have select : Leads "SELECT " := by decide
  have source : Leads "FROM " := by decide
  have columns := Fragment.preceded permits select (fragment_commaList permits sound.columns)
  have table := Fragment.preceded permits source sound.source
  have joins := fragments_map fun join member =>
    fragment_join permits (sound.joins join member).1 (sound.joins join member).2
  have order := fragments_order permits dialect sound
  have limit := fragments_bound permits sound.limit
  have offset := fragments_bound permits sound.offset
  have condition := fragments_clause permits "WHERE" (by decide) sound.condition
  have grouping := fragments_clause permits "GROUP BY" (by decide) sound.grouping
  have groups := fragments_clause permits "HAVING" (by decide) sound.groupCondition
  have ordered := fragments_clause permits "ORDER BY" (by decide) order.1
  have limited := fragments_clause permits "LIMIT" (by decide) limit.1
  have moved := fragments_clause permits "OFFSET" (by decide) offset.1
  have pieces : ∀ piece ∈ statement.clauses dialect, Sealed allowed piece := by
    simp only [Select.clauses, List.forall_mem_append, List.forall_mem_cons]
    exact ⟨⟨⟨⟨⟨⟨⟨⟨columns.sealed, table.sealed, List.forall_mem_nil _⟩, joins.1⟩, condition.1⟩,
      grouping.1⟩, groups.1⟩, ordered.1⟩, limited.1⟩, moved.1⟩
  have names : (statement.clauses dialect).flatMap slots = statement.slotNames := by
    simp only [Select.clauses, Select.slotNames, List.flatMap_append, List.flatMap_cons,
      List.flatMap_nil, List.append_nil, List.append_assoc, columns.slots_eq,
      table.slots_eq, joins.2, condition.2, grouping.2, groups.2, ordered.2, order.2, limited.2,
      limit.2, moved.2, offset.2]
  have whole := fragment_clauses permits pieces
  rw [names] at whole
  exact whole

theorem fragment_conflictAction {action : ConflictAction} (sound : action.Sound allowed) :
    Fragment allowed action.text action.slotNames := by
  cases action with
  | doNothing => exact .of_plain permits (by decide)
  | update target assignments =>
    have equals : Divides " = " := by decide
    have update : Leads "DO UPDATE SET " := by decide
    have space : Divides " " := by decide
    have written := fragments_map fun assignment member =>
      Fragment.joined permits equals (sound.2 assignment member).1 (sound.2 assignment member).2
    have listed := Fragment.preceded permits update (fragment_commaList permits written.1)
    rw [written.2] at listed
    simp only [ConflictAction.text, ConflictAction.slotNames]
    split
    · next empty =>
      rw [empty]
      exact listed
    · exact .joined permits space (fragment_tuple permits sound.1) listed

theorem Insert.fragment_text {statement : Insert} (sound : statement.Sound allowed) :
    Fragment allowed statement.text statement.slotNames := by
  have insert : Leads "INSERT INTO " := by decide
  have space : Divides " " := by decide
  have values : Leads "VALUES " := by decide
  have table := Fragment.joined permits space (.preceded permits insert sound.table)
    (fragment_tuple permits sound.columns)
  have tuples := fragments_map fun row member => fragment_tuple permits (sound.rows row member)
  have rows := Fragment.preceded permits values (fragment_commaList permits tuples.1)
  have conflict : (∀ text ∈ statement.onConflict.map ConflictAction.text, Sealed allowed text) ∧
      slotsOf (statement.onConflict.map ConflictAction.text) =
        statement.onConflict.elim [] ConflictAction.slotNames := by
    cases action : statement.onConflict with
    | none => simp [slotsOf]
    | some present =>
      have written := fragment_conflictAction permits (sound.onConflict present action)
      simpa [slotsOf] using ⟨written.sealed, written.slots_eq⟩
  have returned : (∀ text ∈ statement.returningText?, Sealed allowed text) ∧
      slotsOf statement.returningText? = statement.returning.flatMap slots := by
    have list := fragment_commaList permits sound.returning
    unfold returningText?
    split
    · next empty => simp [slotsOf, empty]
    · simpa [slotsOf] using ⟨list.sealed, list.slots_eq⟩
  have resolved := fragments_clause permits "ON CONFLICT" (by decide) conflict.1
  have returning := fragments_clause permits "RETURNING" (by decide) returned.1
  have pieces : ∀ piece ∈ statement.clauses, Sealed allowed piece := by
    simp only [clauses, List.forall_mem_append, List.forall_mem_cons]
    exact ⟨⟨⟨table.sealed, rows.sealed, List.forall_mem_nil _⟩, resolved.1⟩, returning.1⟩
  have names : statement.clauses.flatMap slots = statement.slotNames := by
    simp only [clauses, slotNames, List.flatMap_append, List.flatMap_cons, List.flatMap_nil,
      List.append_nil, List.append_assoc, table.slots_eq, rows.slots_eq,
      tuples.2, resolved.2, conflict.2, returning.2, returned.2]
  have whole := fragment_clauses permits pieces
  rw [names] at whole
  exact whole

theorem Delete.fragment_text {statement : Delete} (sound : statement.Sound allowed) :
    Fragment allowed statement.text statement.slotNames := by
  have delete : Leads "DELETE FROM " := by decide
  have table := Fragment.preceded permits delete sound.table
  have condition := fragments_clause permits "WHERE" (by decide) sound.condition
  have whole := fragment_clauses permits (List.forall_mem_cons.mpr ⟨table.sealed, condition.1⟩)
  rw [List.flatMap_cons, table.slots_eq, condition.2] at whole
  exact whole

/-- A statement of sound fragments has their slots, and no others. -/
theorem Statement.fragment_text (dialect : Dialect) {statement : Statement}
    (sound : statement.Sound allowed) :
    Fragment allowed (statement.text dialect) statement.slotNames := by
  cases statement with
  | select statement => exact statement.fragment_text permits dialect sound
  | insert statement => exact statement.fragment_text permits sound
  | delete statement => exact statement.fragment_text permits sound

end Rendering

end TagQuery
