import TagQuery.Proofs.Listing.Complete
import TagQuery.Proofs.Statement.Clauses

/-! Every statement that is made for a caller finds a parameter for each of its slots. -/

namespace TagQuery

theorem OrderedMap.keys_subset_insert {κ υ : Type} [DecidableEq κ] (map : OrderedMap κ υ) (key : κ)
    (value : υ) : key :: map.keys ⊆ (map.insert key value).keys := by
  rw [OrderedMap.keys_insert]
  split
  · next known => exact List.cons_subset.mpr ⟨known, List.Subset.refl _⟩
  · simp

/-- A statement binds when a parameter is given for each of its slots. -/
theorem Statement.binds_of_fragment {allowed : Char → Bool} {dialect : Dialect}
    {statement : Statement} {params : Params} {names : List String}
    (fragment : Fragment allowed (statement.text dialect) names) (given : names ⊆ params.keys) :
    ∃ bound, statement.bind dialect params = .ok bound := by
  rw [exists_bind_iff, fragment.slots_eq]
  intro name member
  exact Option.isSome_iff_exists.mp ((OrderedMap.get?_isSome_iff params name).mpr (given member))

/-- The slots of a listing and those of its page are given. -/
private theorem slots_subset_withWindow {params : Params} {names : List String}
    (given : names ⊆ params.keys) (window : PageWindow) :
    names ++ ["limit", "offset"] ⊆ (params.withWindow window).keys := by
  have limited := OrderedMap.keys_subset_insert params "limit" (.ofUInt32 window.limit)
  have paged := OrderedMap.keys_subset_insert (params.insert "limit" (.ofUInt32 window.limit))
    "offset" (.ofUInt32 window.offset)
  obtain ⟨limit, before⟩ := List.cons_subset.mp limited
  obtain ⟨offset, whole⟩ := List.cons_subset.mp paged
  refine List.append_subset.mpr ⟨fun name member => whole (before (given member)), ?_⟩
  exact List.cons_subset.mpr ⟨whole limit, List.cons_subset.mpr ⟨offset, List.nil_subset _⟩⟩

namespace Schema

variable {schema : Schema} (checked : schema.check = .ok ()) (dialect : Dialect)
include checked

theorem binds_listEntities {filter : Filter} {resolved : Resolution} {compiled : CompiledFilter}
    (made : filter.compileResolved resolved = .ok compiled) (window : PageWindow) :
    ∃ bound, (schema.listEntities compiled window).statement.bind dialect
      (schema.listEntities compiled window).params = .ok bound := by
  refine Statement.binds_of_fragment
    (fragment_listEntities (named_of_check checked) dialect compiled window) ?_
  apply slots_subset_withWindow
  intro name member
  rw [← Filter.eraseDups_slotNames made]
  exact List.mem_eraseDups.mpr member

theorem binds_listTags (search : Tag) (window : PageWindow) :
    ∃ bound, (schema.listTags search window).statement.bind dialect
      (schema.listTags search window).params = .ok bound :=
  Statement.binds_of_fragment (fragment_listTags (named_of_check checked) dialect search window)
    (slots_subset_withWindow (List.Subset.refl _) window)

theorem binds_listEntityTags (entity : Int64) :
    ∃ bound, (schema.listEntityTags entity).statement.bind dialect
      (schema.listEntityTags entity).params = .ok bound :=
  Statement.binds_of_fragment (fragment_listEntityTags (named_of_check checked) dialect entity)
    (List.Subset.refl _)

end Schema

theorem Schema.Prepares.binds {schema : Schema} (checked : schema.check = .ok ())
    {prepared : Prepared} (made : schema.Prepares prepared) (dialect : Dialect) :
    ∃ bound, prepared.statement.bind dialect prepared.params = .ok bound := by
  cases made with
  | entities ran =>
    obtain ⟨compiled, middle, compiles, last⟩ := Action.of_runFrom_bind_ok ran
    cases last
    obtain ⟨_, _, _, made⟩ := Filter.of_compile_ok compiles
    exact binds_listEntities checked dialect made _
  | tags search window => exact binds_listTags checked dialect search window
  | entityTags entity => exact binds_listEntityTags checked dialect entity
  | allTags => exact (bindsInOrder_listAllTags checked dialect).imp fun _ bound => bound.1
  | attachment ran =>
    obtain ⟨id, rfl⟩ := of_attachKnown_ok (congrArg Prod.fst ran)
    exact (bindsInOrder_attach checked dialect _ id).imp fun _ bound => bound.1
  | detachment ran =>
    obtain ⟨id, rfl⟩ := of_detachKnown_ok (congrArg Prod.fst ran)
    exact (bindsInOrder_detach checked dialect _ id).imp fun _ bound => bound.1
  | creation ran =>
    rw [(Schema.of_createTags_some ran).1]
    exact (bindsInOrder_insertTags checked dialect _).imp fun _ bound => bound.1

end TagQuery
