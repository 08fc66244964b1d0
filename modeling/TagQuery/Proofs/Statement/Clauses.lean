import Mathlib.Algebra.Ring.Parity
import TagQuery.Executor.Run
import TagQuery.Proofs.Action.Outcome
import TagQuery.Proofs.Statement.Lexical
import TagQuery.Proofs.Statement.Rendered

/-! The slots of a whole statement are those of its fragments, one after another, as long as each
fragment closes the literals that it opens. -/

namespace TagQuery

def OrderItem.expression? (item : OrderItem) : Option String :=
  match item.key with
  | .random => none
  | .column expression => some expression

def RowBound.name? : RowBound → Option String
  | .literal _ => none
  | .parameter name => some name

def Join.fragments (join : Join) : List String := [join.table, join.condition]

/-- The texts that a selection is made of, in the order of its clauses. -/
def Select.fragments (statement : Select) : List String :=
  statement.columns ++ [statement.source] ++ statement.joins.flatMap Join.fragments ++
    statement.condition.toList ++ statement.grouping.toList ++ statement.groupCondition.toList ++
    statement.order.filterMap OrderItem.expression?

/-- The parameters that limit a selection, which come after all of its fragments. -/
def Select.boundNames (statement : Select) : List String :=
  (statement.limit.bind RowBound.name?).toList ++ (statement.offset.bind RowBound.name?).toList

def ConflictAction.fragments : ConflictAction → List String
  | .doNothing => []
  | .update target assignments =>
    target ++ assignments.flatMap fun (column, value) => [column, value]

def Insert.fragments (statement : Insert) : List String :=
  [statement.table] ++ statement.columns ++ statement.rows.flatten ++
    statement.onConflict.elim [] ConflictAction.fragments ++ statement.returning

def Delete.fragments (statement : Delete) : List String :=
  statement.table :: statement.condition.toList

def Statement.fragments : Statement → List String
  | .select statement => statement.fragments
  | .insert statement => statement.fragments
  | .delete statement => statement.fragments

def Statement.boundNames : Statement → List String
  | .select statement => statement.boundNames
  | .insert _ | .delete _ => []

/-- The slots of the fragments from left to right, and then the parameters of a limit. -/
def Statement.clauseSlots (statement : Statement) : List String :=
  statement.fragments.flatMap slots ++ statement.boundNames

/-- Text leaves a scanner as it was, inside of a literal or not, when its quotes are even. -/
theorem Lexeme.quotedAfter_eq_self_iff {quoted : Bool} {text : List Char} :
    quotedAfter quoted text = quoted ↔ Even (text.count '\'') := by
  induction text generalizing quoted with
  | nil => simp [quotedAfter]
  | cons first rest ih =>
    by_cases quote : first = '\''
    · subst quote
      rw [quotedAfter, if_pos rfl, List.count_cons_self, Nat.even_add_one, ← @ih (!quoted)]
      cases quoted <;> simp
    · rw [quotedAfter, if_neg quote, List.count_cons_of_ne quote]
      exact ih

/-- Any text with an even number of quotes is a fragment. -/
theorem Fragment.of_even {text : String} (even : Even (text.toList.count '\'')) :
    Sealed (fun _ => true) text where
  closed := Lexeme.quotedAfter_eq_self_iff.mpr even
  slots_eq := rfl
  plain _ _ := rfl

/-- Text binds exactly when there is a parameter for each of its slots. -/
theorem Statement.exists_bind_iff {dialect : Dialect} {params : Params} {statement : Statement} :
    (∃ bound, statement.bind dialect params = .ok bound) ↔
      ∀ name ∈ slots (statement.text dialect), ∃ value, params.get? name = some value := by
  have distinct (name : String) : name ∈ Lexeme.names
      (Lexeme.scan false (statement.text dialect).toList) ↔ name ∈ slots (statement.text dialect) :=
    List.mem_eraseDups
  constructor
  · intro ⟨bound, binds⟩ name member
    rw [Statement.bind, Outcome.mapError_ok_iff] at binds
    obtain ⟨values, read, _⟩ := Outcome.of_bind_ok binds
    have found := List.mem_map_of_mem (f := params.get?) ((distinct name).mpr member)
    rw [← Lexical.mapM_require_ok_iff.mp read] at found
    obtain ⟨value, _, same⟩ := List.mem_map.mp found
    exact ⟨value, same.symm⟩
  · intro given
    have reads : ∀ name ∈ Lexeme.names (Lexeme.scan false (statement.text dialect).toList),
        ∃ value, params.require name = .ok value := by
      intro name member
      obtain ⟨value, found⟩ := given name ((distinct name).mp member)
      exact ⟨value, by rw [Params.require, found]⟩
    obtain ⟨values, read⟩ := Outcome.exists_mapM_ok reads
    rw [Statement.bind, bindText, read]
    exact ⟨_, rfl⟩

section Fragments

variable {allowed : Char → Bool}

theorem slotsOf_eq (content : Option String) : slotsOf content = content.toList.flatMap slots := by
  cases content <;> simp [slotsOf]

theorem Join.slotNames_eq (join : Join) : join.slotNames = join.fragments.flatMap slots := by
  simp [slotNames, fragments]

theorem OrderItem.slotNames_eq (item : OrderItem) :
    item.slotNames = item.expression?.toList.flatMap slots := by
  obtain ⟨key, direction, nulls⟩ := item
  cases key <;> simp [slotNames, expression?]

theorem RowBound.slotNames_eq (bound : Option RowBound) :
    bound.elim [] RowBound.slotNames = (bound.bind RowBound.name?).toList := by
  rcases bound with _ | _ | _ <;> rfl

theorem RowBound.named_of_name? {bound : Option RowBound}
    (named : ∀ name ∈ (bound.bind RowBound.name?).toList, Text.isIdentifier name.toList) :
    ∀ present ∈ bound, present.Named := by
  intro present same
  obtain rfl := Option.mem_def.mp same
  cases present with
  | literal count => trivial
  | parameter name => exact named name List.mem_cons_self

theorem ConflictAction.slotNames_eq (action : ConflictAction) :
    action.slotNames = action.fragments.flatMap slots := by
  cases action with
  | doNothing => rfl
  | update target assignments => simp [slotNames, fragments, List.flatMap_assoc]

theorem ConflictAction.sound_of_fragments {action : ConflictAction}
    (closed : ∀ text ∈ action.fragments, Sealed allowed text) : action.Sound allowed := by
  cases action with
  | doNothing => trivial
  | update target assignments =>
    simp only [fragments, List.forall_mem_append, List.forall_mem_flatMap] at closed
    obtain ⟨target, assignments⟩ := closed
    refine ⟨target, fun assignment member => ?_⟩
    have both := assignments assignment member
    exact ⟨both _ (by simp), both _ (by simp)⟩

theorem Select.slotNames_eq (statement : Select) :
    statement.slotNames = statement.fragments.flatMap slots ++ statement.boundNames := by
  have order : statement.order.flatMap OrderItem.slotNames =
      (statement.order.filterMap OrderItem.expression?).flatMap slots := by
    rw [List.filterMap_eq_flatMap_toList, List.flatMap_assoc]
    exact congrArg (List.flatMap · statement.order) (funext OrderItem.slotNames_eq)
  have joins : statement.joins.flatMap Join.slotNames =
      (statement.joins.flatMap Join.fragments).flatMap slots := by
    rw [List.flatMap_assoc]
    exact congrArg (List.flatMap · statement.joins) (funext Join.slotNames_eq)
  simp only [slotNames, fragments, boundNames, List.flatMap_append, List.flatMap_singleton,
    List.append_assoc, slotsOf_eq, RowBound.slotNames_eq, order, joins]

theorem Select.sound_of_fragments {statement : Select}
    (closed : ∀ text ∈ statement.fragments, Sealed allowed text)
    (named : ∀ name ∈ statement.boundNames, Text.isIdentifier name.toList) :
    statement.Sound allowed := by
  simp only [fragments, List.forall_mem_append, List.forall_mem_flatMap, List.forall_mem_singleton]
    at closed
  obtain ⟨⟨⟨⟨⟨⟨columns, source⟩, joins⟩, condition⟩, grouping⟩, groupCondition⟩, order⟩ := closed
  simp only [boundNames, List.forall_mem_append] at named
  exact {
    columns, source
    joins := fun join member =>
      ⟨joins join member _ (by simp [Join.fragments]), joins join member _ (by simp [Join.fragments])⟩
    condition := fun text present => condition text (Option.mem_toList.mpr present)
    grouping := fun text present => grouping text (Option.mem_toList.mpr present)
    groupCondition := fun text present => groupCondition text (Option.mem_toList.mpr present)
    order := fun item member text key =>
      order text (List.mem_filterMap.mpr ⟨item, member, by rw [OrderItem.expression?, key]⟩)
    limit := RowBound.named_of_name? named.1
    offset := RowBound.named_of_name? named.2 }

theorem Insert.slotNames_eq (statement : Insert) :
    statement.slotNames = statement.fragments.flatMap slots := by
  have conflict : statement.onConflict.elim [] ConflictAction.slotNames =
      (statement.onConflict.elim [] ConflictAction.fragments).flatMap slots := by
    cases statement.onConflict with
    | none => rfl
    | some action => exact action.slotNames_eq
  have rows : (statement.rows.flatMap fun row => row.flatMap slots) =
      statement.rows.flatten.flatMap slots := by
    rw [List.flatten_eq_flatMap, List.flatMap_assoc]
    rfl
  simp only [slotNames, fragments, List.flatMap_append, List.flatMap_singleton, conflict, rows]

theorem Insert.sound_of_fragments {statement : Insert}
    (closed : ∀ text ∈ statement.fragments, Sealed allowed text) : statement.Sound allowed := by
  simp only [fragments, List.forall_mem_append, List.forall_mem_singleton] at closed
  obtain ⟨⟨⟨⟨table, columns⟩, rows⟩, onConflict⟩, returning⟩ := closed
  refine ⟨table, columns, ?_, ?_, returning⟩
  · intro row member text present
    exact rows text (List.mem_flatten_of_mem member present)
  · intro action present
    rw [Option.mem_def.mp present] at onConflict
    exact ConflictAction.sound_of_fragments onConflict

theorem Delete.slotNames_eq (statement : Delete) :
    statement.slotNames = statement.fragments.flatMap slots := by
  rw [slotNames, fragments, List.flatMap_cons, slotsOf_eq]

theorem Delete.sound_of_fragments {statement : Delete}
    (closed : ∀ text ∈ statement.fragments, Sealed allowed text) : statement.Sound allowed := by
  obtain ⟨table, condition⟩ := List.forall_mem_cons.mp closed
  exact ⟨table, fun text present => condition text (Option.mem_toList.mpr present)⟩

theorem Statement.slotNames_eq (statement : Statement) :
    statement.slotNames = statement.clauseSlots := by
  cases statement with
  | select statement => exact statement.slotNames_eq
  | insert statement => exact statement.slotNames_eq.trans (List.append_nil _).symm
  | delete statement => exact statement.slotNames_eq.trans (List.append_nil _).symm

theorem Statement.sound_of_fragments {statement : Statement}
    (closed : ∀ text ∈ statement.fragments, Sealed allowed text)
    (named : ∀ name ∈ statement.boundNames, Text.isIdentifier name.toList) :
    statement.Sound allowed := by
  cases statement with
  | select statement => exact Select.sound_of_fragments closed named
  | insert statement => exact Insert.sound_of_fragments closed
  | delete statement => exact Delete.sound_of_fragments closed

end Fragments

/-- When every fragment has an even number of quotes, the slots of the text are those that the
fragments have on their own, in the order of the clauses. So the statement binds exactly when a
parameter is given for each of them. -/
theorem Statement.slots_text_eq {statement : Statement}
    (even : ∀ text ∈ statement.fragments, Even (text.toList.count '\''))
    (named : ∀ name ∈ statement.boundNames, Text.isIdentifier name.toList) (dialect : Dialect) :
    slots (statement.text dialect) = statement.clauseSlots ∧
      ∀ params : Params, (∃ bound, statement.bind dialect params = .ok bound) ↔
        ∀ name ∈ statement.clauseSlots, ∃ value, params.get? name = some value := by
  have sound : statement.Sound fun _ => true :=
    sound_of_fragments (fun text member => .of_even (even text member)) named
  have whole : slots (statement.text dialect) = statement.clauseSlots := by
    rw [← slotNames_eq]
    exact (fragment_text (fun _ _ => rfl) dialect sound).slots_eq
  refine ⟨whole, fun params => ?_⟩
  rw [exists_bind_iff, whole]

/-- Fragments that end in literals, in slots and in dollar signs. -/
def crowdedSelect : Select where
  columns := ["'$x'", "$a"]
  source := "t$"
  joins := [⟨.left, "u", "u.k = $b"⟩]
  condition := some "v = 'it''s $y' OR w = $a_1"
  groupCondition := some "COUNT(*) > $"
  order := [⟨.column "$c", some .descending, none⟩, ⟨.random, none, none⟩]
  limit := some (.parameter "limit")
  offset := some (.literal 5)

theorem Statement.slots_text_eq_crowded :
    (∀ text ∈ (Statement.select crowdedSelect).fragments, Even (text.toList.count '\'')) ∧
    (∀ name ∈ (Statement.select crowdedSelect).boundNames, Text.isIdentifier name.toList) ∧
    slots ((Statement.select crowdedSelect).text .sqlite) = ["a", "b", "a_1", "c", "limit"] ∧
    ¬ ∃ bound, (Statement.select crowdedSelect).bind .sqlite ⟨[("a", .null)]⟩ = .ok bound := by
  have even : ∀ text ∈ (Statement.select crowdedSelect).fragments,
      Even (text.toList.count '\'') := by
    decide
  have named : ∀ name ∈ (Statement.select crowdedSelect).boundNames,
      Text.isIdentifier name.toList := by
    decide
  have found : (Statement.select crowdedSelect).clauseSlots = ["a", "b", "a_1", "c", "limit"] := by
    decide +kernel
  obtain ⟨whole, binds⟩ := slots_text_eq even named .sqlite
  refine ⟨even, named, whole.trans found, fun bound => ?_⟩
  obtain ⟨value, given⟩ := (binds _).mp bound "b" (by simp [found])
  cases given

end TagQuery
