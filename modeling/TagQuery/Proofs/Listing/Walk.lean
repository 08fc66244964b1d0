import Mathlib.Data.List.Nodup
import TagQuery.Proofs.Listing.Totals
import TagQuery.Proofs.Statement.Ordering

/-! A walk over the pages of a listing by creation, from the first page to the first empty one. -/

namespace TagQuery

namespace PageWindow

variable {α : Type} {window : PageWindow}

/-- The part of a list that a window shows. -/
def part (window : PageWindow) (listed : List α) : List α :=
  (listed.drop window.offset.toNat).take window.limit.toNat

/-- The next window begins where this one ends, or at an offset that no short list reaches. -/
private theorem drop_next {listed : List α} (short : listed.length < UInt32.size) :
    listed.drop window.next.offset.toNat =
      (listed.drop window.offset.toNat).drop window.limit.toNat := by
  have offset : window.next.offset.toNat =
      min (window.offset.toNat + window.limit.toNat) (UInt32.size - 1) := by
    refine UInt32.toNat_ofNat_of_lt' ?_
    exact Nat.lt_of_le_of_lt (Nat.min_le_right ..) (by decide)
  rw [List.drop_drop, offset]
  rcases Nat.le_total (window.offset.toNat + window.limit.toNat) (UInt32.size - 1) with within | past
  · rw [Nat.min_eq_left within]
  · rw [Nat.min_eq_right past, List.drop_eq_nil_of_le (by omega), List.drop_eq_nil_of_le (by omega)]

/-- How many pages of some length hold a number of rows: their ratio, rounded up. -/
def pageCount (rows length : Nat) : Nat := (rows + length - 1) / length

private theorem pageCount_zero {length : Nat} (positive : 0 < length) : pageCount 0 length = 0 :=
  Nat.div_eq_of_lt (by omega)

private theorem pageCount_sub {rows length : Nat} (positive : 0 < length) (filled : 0 < rows) :
    pageCount rows length = pageCount (rows - length) length + 1 := by
  have split : rows + length - 1 = (rows - 1) + length := by omega
  rw [pageCount, pageCount, split, Nat.add_div_right _ positive]
  rcases Nat.lt_or_ge rows length with last | more
  · have nothingLeft : rows - length + length - 1 < length := by omega
    rw [Nat.div_eq_of_lt nothingLeft, Nat.div_eq_of_lt (by omega)]
  · rw [Nat.sub_add_cancel more]

/-- A walk shows nothing more once it has taken as many steps as it takes to show all. -/
theorem map_part_walk {listed rest : List α} (short : listed.length < UInt32.size)
    (positive : 0 < window.limit.toNat) (left : listed.drop window.offset.toNat = rest) :
    ∃ parts : List (List α),
      parts.length = pageCount rest.length window.limit.toNat ∧
      (∀ part ∈ parts, part ≠ []) ∧ parts.flatten = rest ∧
      (window.walk parts.length).map (·.part listed) = parts ++ [[]] := by
  induction length : rest.length using Nat.strongRecOn generalizing window rest with
  | ind size shorter =>
    cases rest with
    | nil =>
      refine ⟨[], ?_, by simp, rfl, ?_⟩
      · rw [← length]
        exact (pageCount_zero positive).symm
      · simp [walk, part, left]
    | cons first others =>
      have filled : 0 < size := by
        rw [← length]
        exact Nat.succ_pos _
      have later : listed.drop window.next.offset.toNat =
          (first :: others).drop window.limit.toNat := by
        rw [drop_next short, left]
      have fewer : ((first :: others).drop window.limit.toNat).length = size - window.limit.toNat := by
        rw [List.length_drop, length]
      have positive' : 0 < window.next.limit.toNat := positive
      obtain ⟨parts, count, nonempty, joined, shown⟩ :=
        shorter _ (Nat.sub_lt filled positive) positive' later fewer
      refine ⟨(first :: others).take window.limit.toNat :: parts, ?_, ?_, ?_, ?_⟩
      · rw [List.length_cons, count, pageCount_sub positive filled]
        rfl
      · intro part member
        rcases List.mem_cons.mp member with rfl | member
        · simp [List.take_eq_nil_iff, Nat.ne_of_gt positive]
        · exact nonempty part member
      · rw [List.flatten_cons, joined, List.take_append_drop]
      · rw [List.length_cons, walk, List.map_cons, shown, part, left]
        rfl

end PageWindow

/-- Whether one row of a table stands before another under one item is up to its column. -/
private theorem compare_column (order : ValueOrder) {short : String} (simple : '.' ∉ short.toList)
    (column : String) (direction : Direction) (first second : Record) :
    OrderItem.compare order { key := .column (short ++ "." ++ column), direction := some direction }
      (Scope.empty.bind short first) (Scope.empty.bind short second) =
        direction.orient order.compare (first column) (second column) := by
  simp only [OrderItem.compare, Operand.ofWord?_column simple, OrderItem.compareValues,
    OrderItem.oriented, Operand.value, Scope.bind_self, Option.getD_some]

namespace Schema

variable {schema : Schema} {compiled : CompiledFilter}

/-- Entities that a listing by creation does not tell apart have the same identifier. -/
private theorem id_eq_of_compareRows (chosen : compiled.order.key = .creation)
    (order : ValueOrder) (window : PageWindow) {first second : Record} {one other : Int64}
    (firstId : first schema.entity.idColumn = .integer one)
    (secondId : second schema.entity.idColumn = .integer other)
    (tie : (schema.listEntities compiled window).statement.compareRows order "e" first second = .eq) :
    one = other := by
  have spelled : "e." ++ schema.entity.idColumn = "e" ++ "." ++ schema.entity.idColumn := rfl
  have byId : compiled.order.direction.orient order.compare
      (first schema.entity.idColumn) (second schema.entity.idColumn) = .eq := by
    have simple : '.' ∉ ("e" : String).toList := by decide
    rw [← compare_column order simple, ← spelled]
    rw [Statement.compareRows, listEntities, Statement.order, ListingOrder.orderItems, chosen] at tie
    exact (Ordering.then_eq_eq.mp (Ordering.then_eq_eq.mp tie).2).1
  rw [firstId, secondId] at byId
  apply Int64.toInt_inj.mp
  cases direction : compiled.order.direction with
  | ascending =>
    rw [direction, Direction.orient, order.compare_integer] at byId
    exact Int.compare_eq_eq.mp byId
  | descending =>
    rw [direction] at byId
    dsimp only [Direction.orient] at byId
    rw [order.compare_integer] at byId
    exact (Int.compare_eq_eq.mp byId).symm

/-- Entities with distinct identifiers are listed by creation in one order only, and a walk from
the first page, however long its pages are, shows each of them once before the first page that
is empty. All pages before that one have the number of the entities as their total. -/
theorem walk_shows_each_once {α : Type} [RowShape α] (chosen : compiled.order.key = .creation)
    (order : ValueOrder) {entities : List Record} (few : entities.length < UInt32.size)
    (identified : ∀ entity ∈ entities, ∃ id, entity schema.entity.idColumn = .integer id)
    (distinct : (entities.map fun entity => entity schema.entity.idColumn).Nodup) :
    ∃ listed : List Record,
      (∀ window other, (schema.listEntities compiled window).statement.Admits order "e" entities
        other ↔ other = listed) ∧
      ∀ (limit : UInt32) (answer : Record → Row) (item : Record → α), 1 ≤ limit →
        (∀ entity ∈ entities,
          (answer entity).get? totalColumn = some (.integer (.ofNat entities.length)) ∧
          RowShape.ofRow ((answer entity).remove totalColumn) = .ok (item entity)) →
        ∃ pages : List (List α),
          pages.length = PageWindow.pageCount entities.length limit.toNat ∧
          (∀ page ∈ pages, page ≠ []) ∧ pages.flatten = listed.map item ∧
          ((PageWindow.first limit).walk pages.length).map
              (fun window => Page.ofRows ((window.part listed).map answer)) =
            pages.map (fun page => .ok ⟨page, .ofNat entities.length⟩) ++ [.ok ⟨[], 0⟩] := by
  have apart (window : PageWindow) : ∀ first ∈ entities, ∀ second ∈ entities,
      (schema.listEntities compiled window).statement.compareRows order "e" first second = .eq →
        first = second := by
    intro first memberFirst second memberSecond tie
    obtain ⟨one, firstId⟩ := identified first memberFirst
    obtain ⟨other, secondId⟩ := identified second memberSecond
    have same := id_eq_of_compareRows chosen order window firstId secondId tie
    apply List.inj_on_of_nodup_map distinct memberFirst memberSecond
    rw [firstId, secondId, same]
  obtain ⟨listed, only⟩ := Statement.admits_iff_of_apart order _ "e" (apart ⟨0, 0⟩)
  -- the window of a listing has no part in its order
  refine ⟨listed, fun window => only, ?_⟩
  intro limit answer item positive rows
  have same : listed.Perm entities := ((only listed).mpr rfl).1
  have short : listed.length < UInt32.size := by rwa [same.length_eq]
  have positive' : 0 < (PageWindow.first limit).limit.toNat := UInt32.le_iff_toNat_le.mp positive
  obtain ⟨parts, count, filled, joined, shown⟩ :=
    PageWindow.map_part_walk short positive' (List.drop_zero ..)
  have read : ∀ part ∈ parts, Page.ofRows (part.map answer) =
      .ok ⟨part.map item, .ofNat entities.length⟩ := by
    intro part member
    have inside : ∀ entity ∈ part, entity ∈ entities := by
      intro entity present
      apply same.mem_iff.mp
      rw [← joined]
      exact List.mem_flatten.mpr ⟨part, member, present⟩
    have counted : ∀ entity ∈ part, (answer entity).total = .ok (.ofNat entities.length) := by
      intro entity present
      exact Row.total_ofNat (Nat.lt_trans few (by decide)) (rows entity (inside entity present)).1
    rw [Page.ofRows_map_of_ok counted fun entity present => (rows entity (inside entity present)).2,
      if_neg (filled part member)]
  refine ⟨parts.map (List.map item), ?_, ?_, ?_, ?_⟩
  · rw [List.length_map, count, same.length_eq]
    rfl
  · intro page member
    obtain ⟨part, inside, rfl⟩ := List.mem_map.mp member
    exact fun empty => filled part inside (List.map_eq_nil_iff.mp empty)
  · rw [← List.map_flatten, joined]
  · have pages := congrArg (List.map fun part => Page.ofRows (α := α) (part.map answer)) shown
    rw [List.map_map, List.map_append, List.map_congr_left read] at pages
    rw [List.length_map, List.map_map]
    exact pages

/-- A document of some time, or of none. -/
def document (id : Int64) (created : Value) : Record := fun column =>
  if column = "id" then .integer id else if column = "created_at" then created else .null

/-- Two documents of one time and one without a time. -/
def documents : List Record :=
  [document 1 (.text "2024-05-01"), document 2 (.text "2024-05-01"), document 3 .null]

def documentRow (document : Record) : Row := ⟨[("id", document "id")]⟩

def countedRow (document : Record) : Row := ⟨[("id", document "id"), (totalColumn, .integer 3)]⟩

theorem walk_shows_each_once_documents :
    (∀ window other, (({} : Schema).listEntities everything window).statement.Admits .byKind "e"
      documents other ↔ other = [document 2 (.text "2024-05-01"), document 1 (.text "2024-05-01"),
        document 3 .null]) ∧
    ∃ pages : List (List Row), pages.length = 2 ∧ (∀ page ∈ pages, page ≠ []) ∧
      pages.flatten = [⟨[("id", .integer 2)]⟩, ⟨[("id", .integer 1)]⟩, ⟨[("id", .integer 3)]⟩] ∧
      ((PageWindow.first 2).walk 2).map (fun window => Page.ofRows ((window.part
        [document 2 (.text "2024-05-01"), document 1 (.text "2024-05-01"),
          document 3 .null]).map countedRow)) =
        pages.map (fun page => .ok ⟨page, 3⟩) ++ [.ok ⟨[], 0⟩] := by
  have identified : ∀ entity ∈ documents, ∃ id, entity "id" = .integer id := by
    simp [documents, document]
  have distinct : (documents.map fun entity => entity "id").Nodup := by decide
  have rows : ∀ entity ∈ documents,
      (countedRow entity).get? totalColumn = some (.integer (.ofNat documents.length)) ∧
      RowShape.ofRow ((countedRow entity).remove totalColumn) = .ok (documentRow entity) := by
    intro entity member
    exact ⟨rfl, rfl⟩
  obtain ⟨listed, only, walked⟩ := @walk_shows_each_once {} everything Row _ rfl .byKind
    documents (by decide) identified distinct
  have shown : [document 2 (.text "2024-05-01"), document 1 (.text "2024-05-01"),
      document 3 .null] = listed := by
    refine (only ⟨0, 0⟩ _).mp ⟨List.Perm.swap .., ?_⟩
    decide +kernel
  subst shown
  obtain ⟨pages, count, filled, joined, walk⟩ := walked 2 countedRow documentRow (by decide) rows
  have two : pages.length = 2 := count
  rw [two] at walk
  exact ⟨only, pages, two, filled, joined, walk⟩

end Schema

end TagQuery
