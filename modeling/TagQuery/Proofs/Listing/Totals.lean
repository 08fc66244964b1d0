import Mathlib.Algebra.Group.Nat.Defs
import TagQuery.IdCache.Resident
import TagQuery.Listing.Queries
import TagQuery.Proofs.Listing.Families
import TagQuery.Proofs.Row.Page
import TagQuery.Proofs.Schema.Names
import TagQuery.Proofs.Text.Names

/-! The columns that a statement answers with, and when the total of a listing of entities
can be told from the columns of the entities. -/

namespace TagQuery

namespace Text

/-- The last of the parts between the dots of a name. -/
def lastPart (name : String) : String :=
  String.ofList ((splitOnChar '.' name.toList).getLast?.getD [])

/-- A short name before the first dot leaves the last part alone. -/
theorem lastPart_qualified (name : String) : lastPart ("e." ++ name) = lastPart name := by
  have parts : splitOnChar '.' ("e." ++ name).toList = ['e'] :: splitOnChar '.' name.toList := by
    rw [String.toList_append]
    rfl
  have filled : splitOnChar '.' name.toList ≠ [] := by
    rw [splitOnChar_eq_splitOn]
    exact List.splitOn_ne_nil _ _
  rw [lastPart, parts, List.getLast?_cons, List.getLast?_eq_some_getLast filled]
  simp [lastPart, List.getLast?_eq_some_getLast filled]

end Text

/-- The name of the column that an item of a statement answers with: the alias of the item,
or the last part of its own name. -/
def resultName (item : String) : String :=
  match (Text.splitOnChar ' ' item.toList).reverse with
  | short :: ['A', 'S'] :: _ => String.ofList short
  | _ => Text.lastPart item

theorem resultName_totalItem : resultName totalItem = totalColumn := by decide +kernel

theorem resultName_column {column : String} (valid : Text.isQualifiedIdentifier column) :
    resultName ("e." ++ column) = Text.lastPart column := by
  have plain : ' ' ∉ ("e." ++ column).toList := by
    rw [String.toList_append, List.mem_append, not_or]
    refine ⟨by decide, fun member => ?_⟩
    exact absurd (List.all_eq_true.mp (Text.all_isNameCharacter valid) _ member) (by decide)
  rw [resultName, Text.splitOnChar_eq_splitOn, List.splitOn_eq_singleton plain]
  exact Text.lastPart_qualified column

/-- The names of the columns of the rows that a statement answers with. -/
def Statement.resultNames : Statement → List String
  | .select statement => statement.columns.map resultName
  | .insert statement => statement.returning.map resultName
  | .delete _ => []

/-- A row with the values of the columns, in their order. -/
def Statement.resultRow (statement : Statement) (values : List Value) : Row :=
  ⟨statement.resultNames.zip values⟩

theorem Schema.resultNames_listEntities {schema : Schema} (named : schema.Named)
    (compiled : CompiledFilter) (window : PageWindow) :
    (schema.listEntities compiled window).statement.resultNames =
      schema.entity.columns.map Text.lastPart ++ [totalColumn] := by
  have columns : (schema.entity.columns.map ("e." ++ ·)).map resultName =
      schema.entity.columns.map Text.lastPart := by
    rw [List.map_map]
    exact List.map_congr_left fun column member => resultName_column (named.columns column member)
  rw [listEntities, Statement.resultNames, List.map_append, columns]
  simp only [List.map_cons, List.map_nil, resultName_totalItem]

namespace Row

variable {name : String} {names : List String} {values : List Value} {value : Value}

/-- The column of a name that no column before has is the one that is found. -/
theorem get?_append (absent : name ∉ names) (sizes : values.length = names.length) :
    Row.get? ⟨(names ++ [name]).zip (values ++ [value])⟩ name = some value := by
  induction names generalizing values with
  | nil =>
    obtain rfl := List.length_eq_zero_iff.mp sizes
    simp [get?]
  | cons first rest ih =>
    obtain ⟨head, tail, rfl⟩ := List.exists_cons_of_length_eq_add_one sizes
    rw [List.mem_cons, not_or] at absent
    have other : (name == first) = false := beq_false_of_ne absent.1
    simpa [get?, List.lookup_cons, other] using ih absent.2 (by simpa using sizes)

theorem remove_append (absent : name ∉ names) (sizes : values.length = names.length) :
    Row.remove ⟨(names ++ [name]).zip (values ++ [value])⟩ name = ⟨names.zip values⟩ := by
  unfold remove
  congr 1
  dsimp only
  induction names generalizing values with
  | nil =>
    obtain rfl := List.length_eq_zero_iff.mp sizes
    simp [withoutFirst]
  | cons first rest ih =>
    obtain ⟨head, tail, rfl⟩ := List.exists_cons_of_length_eq_add_one sizes
    rw [List.mem_cons, not_or] at absent
    simpa [withoutFirst, Ne.symm absent.1] using ih absent.2 (by simpa using sizes)

/-- A name that an earlier column has finds that one. -/
theorem get?_replicate (present : name ∈ names) (value : Value) :
    Row.get? ⟨(names ++ [name]).zip (List.replicate names.length .null ++ [value])⟩ name =
      some .null := by
  induction names with
  | nil => cases present
  | cons first rest ih =>
    by_cases here : name = first
    · simp [get?, List.replicate_succ, here]
    · have other : (name == first) = false := beq_false_of_ne here
      have later := ih ((List.mem_cons.mp present).resolve_left here)
      simpa [get?, List.replicate_succ, List.lookup_cons, other] using later

end Row

theorem Row.total_ofNat {row : Row} {count : Nat} (small : count < 2 ^ 63)
    (held : row.get? totalColumn = some (.integer (.ofNat count))) :
    row.total = .ok (.ofNat count) := by
  have positive : ¬(Int64.ofNat count).toInt < 0 := by
    rw [Int64.toInt_ofNat_of_lt small]
    omega
  rw [Row.total, held]
  dsimp only
  rw [if_neg positive]
  rfl

namespace Schema

variable {schema : Schema}

/-- A row of a listing of entities: the columns of one entity, and after them the number of
all matches. -/
def listingRow (schema : Schema) (compiled : CompiledFilter) (window : PageWindow) (count : Nat)
    (values : List Value) : Row :=
  (schema.listEntities compiled window).statement.resultRow (values ++ [.integer (.ofNat count)])

/-- The columns of one entity under their own names. -/
def entityRow (schema : Schema) (values : List Value) : Row :=
  ⟨(schema.entity.columns.map Text.lastPart).zip values⟩

theorem listingRow_eq (named : schema.Named) (compiled : CompiledFilter) (window : PageWindow)
    (count : Nat) (values : List Value) :
    schema.listingRow compiled window count values =
      ⟨(schema.entity.columns.map Text.lastPart ++ [totalColumn]).zip
        (values ++ [.integer (.ofNat count)])⟩ := by
  rw [listingRow, Statement.resultRow, resultNames_listEntities named]

/-- The rows of a listing are read as the entities and the number of matches, whatever these
are, exactly when no column of the entities has the name of the total. -/
theorem ofRows_listing_iff (checked : schema.check = .ok ()) (compiled : CompiledFilter)
    (window : PageWindow) :
    (∀ (count : Nat) (entities : List (List Value)), count < 2 ^ 63 →
      (∀ values ∈ entities, values.length = schema.entity.columns.length) →
        Page.ofRows (entities.map (schema.listingRow compiled window count)) = .ok
          ⟨entities.map schema.entityRow, if entities = [] then 0 else .ofNat count⟩) ↔
      ∀ column ∈ schema.entity.columns, Text.lastPart column ≠ totalColumn := by
  have rows := listingRow_eq (named_of_check checked) compiled window
  constructor
  · -- an entity of nulls has no total of its own, so a column of that name is found first
    intro read column member same
    have present : totalColumn ∈ schema.entity.columns.map Text.lastPart :=
      List.mem_map.mpr ⟨column, member, same⟩
    have alone := read 0 [.replicate schema.entity.columns.length .null] (by decide) (by simp)
    have found := Row.get?_replicate present (.integer (.ofNat 0))
    rw [List.length_map] at found
    have refused : Row.total (schema.listingRow compiled window 0
        (.replicate schema.entity.columns.length .null)) =
          .error (.typeMismatch totalColumn "integer" Value.null.kind) := by
      rw [rows, Row.total, found]
    rw [List.map_singleton, Page.ofRows, Page.readRows, Page.readRow, refused] at alone
    cases alone
  · intro apart count entities small sizes
    have absent : totalColumn ∉ schema.entity.columns.map Text.lastPart := by
      rintro member
      obtain ⟨column, selected, same⟩ := List.mem_map.mp member
      exact apart column selected same
    have size {values : List Value} (member : values ∈ entities) :
        values.length = (schema.entity.columns.map Text.lastPart).length := by
      rw [sizes values member, List.length_map]
    have counted : ∀ row ∈ entities.map (schema.listingRow compiled window count),
        row.total = .ok (.ofNat count) := by
      intro row member
      obtain ⟨values, inside, rfl⟩ := List.mem_map.mp member
      rw [rows]
      exact Row.total_ofNat small (Row.get?_append absent (size inside))
    have shaped : ∀ row ∈ entities.map (schema.listingRow compiled window count),
        RowShape.ofRow (row.remove totalColumn) = .ok (row.remove totalColumn) :=
      fun _ _ => rfl
    have items : (entities.map (schema.listingRow compiled window count)).map
        (·.remove totalColumn) = entities.map schema.entityRow := by
      rw [List.map_map]
      refine List.map_congr_left fun values inside => ?_
      rw [Function.comp_apply, rows]
      exact Row.remove_append absent (size inside)
    rw [Page.ofRows_of_ok counted shaped, items]
    simp only [List.map_eq_nil_iff]

/-- Documents listed with their titles. -/
def titled : Schema := { entity := { columns := ["id", "main.title"] } }

/-- Documents with a column of their own that is called like the total. -/
def totalled : Schema := { entity := { columns := ["id", "__total"] } }

/-- What the filter that holds for every entity is compiled to. -/
def everything : CompiledFilter where
  predicate := .leaf .always
  order := .ofDirectives []
  params := familyParams []
  counts := ⟨0, 0, 0⟩

theorem ofRows_listing_titled :
    titled.check = .ok () ∧ (∀ column ∈ titled.entity.columns, Text.lastPart column ≠ totalColumn) ∧
      Page.ofRows ([[.integer 1, .text "Dune"], [.integer 2, .null]].map
        (titled.listingRow everything ⟨2, 0⟩ 5)) = .ok (Page.mk [
          Row.mk [("id", .integer 1), ("title", .text "Dune")],
          Row.mk [("id", .integer 2), ("title", .null)]] 5) := by
  have checked : titled.check = .ok () := rfl
  have apart : ∀ column ∈ titled.entity.columns, Text.lastPart column ≠ totalColumn := by
    decide +kernel
  have read := (ofRows_listing_iff checked everything ⟨2, 0⟩).mpr apart 5
    [[.integer 1, .text "Dune"], [.integer 2, .null]] (by decide) (by decide)
  have rows : [[.integer 1, .text "Dune"], [.integer 2, .null]].map titled.entityRow =
      [Row.mk [("id", .integer 1), ("title", .text "Dune")],
        Row.mk [("id", .integer 2), ("title", .null)]] := by
    decide +kernel
  rw [rows] at read
  exact ⟨checked, apart, read⟩

/-- A schema that passes the check has a column called like the total. The one match is
counted by its column, and the item has the total in place of the column. -/
theorem ofRows_listing_totalled :
    totalled.check = .ok () ∧
      (Filter.always.compile.runFrom ({ ready := true } : ResidentCache)).1 = .ok everything ∧
      totalled.entityRow [.integer 1, .integer 7] = ⟨[("id", .integer 1), ("__total", .integer 7)]⟩ ∧
      Page.ofRows ([[.integer 1, .integer 7]].map (totalled.listingRow everything ⟨10, 0⟩ 1)) =
        .ok (Page.mk [Row.mk [("id", .integer 1), ("__total", .integer 1)]] 7) := by
  have row : totalled.listingRow everything ⟨10, 0⟩ 1 [.integer 1, .integer 7] =
      ⟨[("id", .integer 1), ("__total", .integer 7), ("__total", .integer 1)]⟩ := by
    decide +kernel
  refine ⟨rfl, rfl, by decide +kernel, ?_⟩
  rw [List.map_singleton, row]
  rfl

end Schema

end TagQuery
