import Mathlib.Data.List.Induction
import TagQuery.IdCache.Resident
import TagQuery.Listing.Queries
import TagQuery.Proofs.Listing.Compiled
import TagQuery.Statement.Text

/-! Which order the directives of a filter ask for, and how a listing asks for it. -/

namespace TagQuery

/-- The orders that a directive can ask for. Any other directive asks for nothing. -/
def knownOrders : List String := ["random", "oldest", "newest"]

/-- The order that a leaf asks for, when it is a known one. -/
def Leaf.knownOrder? : Leaf → Option String
  | .tag ⟨key, some value⟩ => if key = "sort" ∧ value ∈ knownOrders then some value else none
  | _ => none

/-- The known orders that a filter asks for, from left to right and at any depth. -/
def Filter.knownOrders (filter : Filter) : List String :=
  filter.leaves.filterMap Leaf.knownOrder?

theorem Filter.filter_directives (filter : Filter) :
    filter.directives.filter (· ∈ TagQuery.knownOrders) = filter.knownOrders := by
  rw [directives, knownOrders, List.filter_filterMap]
  refine congrArg (filter.leaves.filterMap ·) (funext fun leaf => ?_)
  cases leaf with
  | always => rfl
  | tag named =>
    obtain ⟨key, _ | value⟩ := named
    · simp [Leaf.directive?, Leaf.knownOrder?]
    · by_cases asks : key = sortKey
      · subst asks
        simp [Leaf.directive?, Leaf.knownOrder?, sortKey, Option.filter]
      · have other : ¬ key = "sort" := asks
        simp [Leaf.directive?, Leaf.knownOrder?, asks, other]

namespace ListingOrder

/-- The order that comes of some known orders: random when the last of them is, and otherwise by
creation. The direction is that of the last one that is not random. -/
structure SelectedBy (order : ListingOrder) (orders : List String) : Prop where
  key_eq : order.key = if orders.getLast? = some "random" then .random else .creation
  direction_eq : order.direction =
    if (orders.filter (· ≠ "random")).getLast? = some "oldest" then .ascending else .descending

/-- One more directive is followed. -/
theorem SelectedBy.follow {order : ListingOrder} {orders : List String}
    (selected : order.SelectedBy orders) (directive : String) :
    (order.follow directive).SelectedBy (orders ++ [directive].filter (· ∈ knownOrders)) := by
  unfold ListingOrder.follow
  by_cases random : directive = "random"
  · subst random
    refine ⟨by simp [knownOrders], ?_⟩
    rw [if_pos rfl]
    simpa [knownOrders] using selected.direction_eq
  · by_cases oldest : directive = "oldest"
    · subst oldest
      exact ⟨by simp [knownOrders], by simp [knownOrders]⟩
    · by_cases newest : directive = "newest"
      · subst newest
        exact ⟨by simp [knownOrders], by simp [knownOrders]⟩
      · have unknown : [directive].filter (· ∈ knownOrders) = [] := by
          simp [knownOrders, random, oldest, newest]
        rw [unknown, List.append_nil, if_neg random, if_neg oldest, if_neg newest]
        exact selected

theorem selectedBy_ofDirectives (directives : List String) :
    (ofDirectives directives).SelectedBy (directives.filter (· ∈ knownOrders)) := by
  induction directives using List.reverseRecOn with
  | nil => exact ⟨rfl, rfl⟩
  | append_singleton directives directive ih =>
    rw [List.filter_append, ofDirectives, List.foldl_append]
    exact ih.follow directive

/-- Known orders select one order. -/
theorem SelectedBy.unique {order other : ListingOrder} {orders : List String}
    (selected : order.SelectedBy orders) (selected' : other.SelectedBy orders) : order = other := by
  obtain ⟨key, direction⟩ := order
  obtain ⟨key', direction'⟩ := other
  rw [mk.injEq]
  exact ⟨selected.key_eq.trans selected'.key_eq.symm,
    selected.direction_eq.trans selected'.direction_eq.symm⟩

/-- What a listing of entities writes after `ORDER BY`: a random order has nothing beside it, and an
order by creation has the identifiers after it in the same direction. -/
def text (order : ListingOrder) (entity : EntityTable) (dialect : Dialect) : String :=
  match order.key with
  | .random => dialect.randomFunction
  | .creation =>
    "e." ++ entity.createdColumn ++ " " ++ order.direction.keyword ++
      ", e." ++ entity.idColumn ++ " " ++ order.direction.keyword

end ListingOrder

/-- The text of a listing of entities that is ordered by a given text. -/
def Schema.listingText (schema : Schema) (predicate : Predicate) (ordering : String) : String :=
  " ".intercalate [
    "SELECT " ++ commaList (schema.entity.columns.map ("e." ++ ·) ++ [totalItem]),
    "FROM " ++ schema.entity.table ++ " e",
    "LEFT JOIN " ++ schema.association.table ++ " et ON e." ++ schema.entity.idColumn ++ " = et." ++
      schema.association.entityColumn,
    "GROUP BY e." ++ schema.entity.idColumn,
    "HAVING " ++ predicate.text schema,
    "ORDER BY " ++ ordering,
    "LIMIT $limit",
    "OFFSET $offset"]

private theorem ListingOrder.orderText (order : ListingOrder) (entity : EntityTable)
    (dialect : Dialect) : commaList ((order.orderItems entity).map (OrderItem.text dialect)) =
      order.text entity dialect := by
  obtain ⟨_ | _, direction⟩ := order
  · apply String.toList_inj.mp
    simp [orderItems, text, OrderItem.text, commaList]
  · rfl

private theorem text_association_join (association : AssociationTable) (key column : String) :
    (association.join .left "et" ("e." ++ key) column).text =
      "LEFT JOIN " ++ association.table ++ " et ON e." ++ key ++ " = et." ++ column := by
  apply String.toList_inj.mp
  simp [AssociationTable.join, Join.text, JoinKind.keyword]

/-- A listing is ordered after its groups are chosen and before its page is cut out. -/
theorem Schema.text_listEntities (schema : Schema) (compiled : CompiledFilter) (window : PageWindow)
    (dialect : Dialect) : (schema.listEntities compiled window).statement.text dialect =
      schema.listingText compiled.predicate (compiled.order.text schema.entity dialect) := by
  have ordered : compiled.order.orderItems schema.entity ≠ [] := by
    unfold ListingOrder.orderItems
    split <;> exact List.cons_ne_nil _ _
  simp only [listEntities, Statement.text, Select.text, Select.clauses, Select.orderText?, ordered,
    clause?, listingText, ListingOrder.orderText, text_association_join, RowBound.text,
    Option.map_some, Option.map_none, Option.toList_some, Option.toList_none, List.map_cons,
    List.map_nil, if_false, List.cons_append, List.nil_append]
  simp only [← String.append_assoc, String.reduceAppend]

theorem Filter.selectedBy_of_compile_ok {σ : Type} [IdCache σ] {filter : Filter} {cache after : σ}
    {compiled : CompiledFilter} (ran : filter.compile.runFrom cache = (.ok compiled, after)) :
    compiled.order.SelectedBy filter.knownOrders := by
  obtain ⟨_, _, _, made⟩ := of_compile_ok ran
  rw [(of_compileResolved_ok made).2.1, ← filter_directives]
  exact ListingOrder.selectedBy_ofDirectives filter.directives

/-- The known orders that a filter asks for decide the order of its listing, wherever they stand and
whatever else the filter asks for. -/
theorem Filter.order_selected {σ : Type} [IdCache σ] {filter : Filter} {cache after : σ}
    {compiled : CompiledFilter} (ran : filter.compile.runFrom cache = (.ok compiled, after)) :
    compiled.order.SelectedBy filter.knownOrders ∧
    (∀ (schema : Schema) (window : PageWindow) (dialect : Dialect),
      (schema.listEntities compiled window).statement.text dialect =
        schema.listingText compiled.predicate (compiled.order.text schema.entity dialect)) ∧
    ∀ {σ' : Type} [IdCache σ'] (other : Filter) (cache' after' : σ') (compiled' : CompiledFilter),
      other.compile.runFrom cache' = (.ok compiled', after') →
        other.knownOrders = filter.knownOrders → compiled'.order = compiled.order := by
  have selected := selectedBy_of_compile_ok ran
  refine ⟨selected, fun schema window dialect => schema.text_listEntities compiled window dialect, ?_⟩
  intro _ _ other cache' after' compiled' ran' same
  exact (same ▸ selectedBy_of_compile_ok ran').unique selected

/-- Random order after an order by age, and then one that is not known. -/
def Filter.shuffled : Filter :=
  .and (sort "oldest") (.or (.not (sort "random")) (.and (sort "alphabetical") (bare "genre")))

theorem Filter.order_selected_shuffled :
    ∃ compiled, shuffled.compile.runFrom ({ ready := true } : ResidentCache) =
        (.ok compiled, { ready := true }) ∧
      shuffled.knownOrders = ["oldest", "random"] ∧ compiled.order = ⟨.random, .ascending⟩ ∧
      compiled.order.SelectedBy ["oldest", "random"] ∧
      (Schema.listEntities {} compiled ⟨10, 0⟩).statement.text .sqlite =
        Schema.listingText {} compiled.predicate "RANDOM()" := by
  obtain ⟨compiled, ran, order⟩ : ∃ compiled, shuffled.compile.runFrom
      ({ ready := true } : ResidentCache) = (.ok compiled, { ready := true }) ∧
        compiled.order = ⟨.random, .ascending⟩ := ⟨_, rfl, rfl⟩
  have orders : shuffled.knownOrders = ["oldest", "random"] := by decide
  obtain ⟨selected, listed, _⟩ := order_selected ran
  rw [orders] at selected
  refine ⟨compiled, ran, orders, order, selected, ?_⟩
  rw [listed, order]
  rfl

end TagQuery
