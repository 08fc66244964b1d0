import TagQuery.IdCache.Resident
import TagQuery.Proofs.Listing.Changes
import TagQuery.Proofs.Statement.Positions

/-! Every statement that is made for a caller binds all of its parameters in their order. -/

namespace TagQuery

/-- The tests of families stand where the bare tags without an identifier stood. -/
theorem flatMap_slotNames {resolved : Resolution} {families : List String} {leaves : List Leaf}
    {atoms : List Atom}
    (replaced : List.Forall₂ (fun leaf atom => leaf.atom resolved families = .ok atom) leaves atoms) :
    atoms.flatMap Atom.slotNames = ((leaves.filterMap Leaf.subject?).filter
      (isFamily resolved)).map fun tag => familyParameter (families.idxOf tag.key) := by
  induction replaced with
  | nil => rfl
  | @cons leaf atom _ _ made _ ih =>
    unfold Leaf.atom at made
    cases asked : leaf.subject? with
    | none =>
      simp only [asked] at made
      cases made
      simpa [asked, Atom.slotNames] using ih
    | some tag =>
      cases found : resolved.get? tag.signature with
      | some id =>
        simp only [asked, found] at made
        cases made
        have other : isFamily resolved tag = false := by simp [isFamily, found]
        simpa [asked, Atom.slotNames, other] using ih
      | none =>
        by_cases bare : tag.value.isNone
        · simp only [asked, found, bare, ↓reduceIte] at made
          cases made
          have family : isFamily resolved tag = true := by simp [isFamily, found, bare]
          simpa [asked, Atom.slotNames, family] using ih
        · simp only [asked, found, bare] at made
          cases made

/-- The slots of a compiled filter first occur in the order of its parameters. -/
theorem Filter.eraseDups_slotNames {filter : Filter} {resolved : Resolution}
    {compiled : CompiledFilter} (made : filter.compileResolved resolved = .ok compiled) :
    compiled.predicate.slotNames.eraseDups = compiled.params.keys := by
  obtain ⟨traversed, _, params, _⟩ := of_compileResolved_ok made
  have leaves := ((Formula.matched_of_traverse traversed).imp fun _ _ made => made.2).forall₂_leaves
  have slots : compiled.predicate.slotNames = (((filter.subjects.filter (isFamily resolved)).map
      Tag.key).map (filter.families resolved).idxOf).map familyParameter := by
    rw [Predicate.slotNames, flatMap_slotNames leaves]
    simp [subjects]
  have distinct : ∀ first ∈ ((filter.subjects.filter (isFamily resolved)).map Tag.key).map
      (filter.families resolved).idxOf, ∀ second ∈ ((filter.subjects.filter (isFamily resolved)).map
        Tag.key).map (filter.families resolved).idxOf,
      familyParameter first = familyParameter second → first = second :=
    fun _ _ _ _ same => familyParameter_injective same
  rw [params, keys_familyParams, slots, eraseDups_map distinct, families, eraseDups_map_idxOf]

/-- The parameters of a page come after those of a listing. -/
theorem keys_withWindow {params : Params} (window : PageWindow)
    (limit : "limit" ∉ params.keys) (offset : "offset" ∉ params.keys) :
    (params.withWindow window).keys = params.keys ++ ["limit", "offset"] := by
  have limited := OrderedMap.insert_of_not_mem (Value.ofUInt32 window.limit) limit
  have other : "offset" ∉ (params.insert "limit" (.ofUInt32 window.limit)).keys := by
    rw [limited]
    simpa [OrderedMap.keys] using offset
  rw [Params.withWindow, OrderedMap.insert_of_not_mem _ other, limited]
  simp [OrderedMap.keys]

/-- A listing with slots of its own binds those of its page after them. -/
theorem eraseDups_slots_withWindow {params : Params} {names : List String}
    (keys : names.eraseDups = params.keys) (window : PageWindow)
    (limit : "limit" ∉ params.keys) (offset : "offset" ∉ params.keys) :
    (names ++ ["limit", "offset"]).eraseDups = (params.withWindow window).keys := by
  have fresh : ∀ name ∈ ["limit", "offset"], name ∉ names := by
    rw [← keys, List.mem_eraseDups] at limit offset
    simpa using ⟨limit, offset⟩
  rw [eraseDups_append_of_fresh (by decide) fresh, keys, keys_withWindow window limit offset]

theorem familyParameter_ne {name : String} (start : name.toList.head? ≠ some 'f') (index : Nat) :
    familyParameter index ≠ name := by
  rintro rfl
  simp [familyParameter] at start

private theorem keys_tagConditionParams (query : Tag) :
    (Schema.tagConditionParams query).keys = ["key_pattern"] ∨
      (Schema.tagConditionParams query).keys = ["tag_key", "value_pattern"] := by
  unfold Schema.tagConditionParams
  cases query.value with
  | none => exact .inl rfl
  | some value => exact .inr rfl

private theorem ne_mark_of_isUsual {character : Char} (usual : isUsual character) :
    character ≠ '$' ∧ character ≠ '?' := by
  constructor <;> rintro rfl <;> exact absurd usual (by decide)

namespace Schema

variable {schema : Schema} (checked : schema.check = .ok ()) (dialect : Dialect)
include checked

theorem bindsInOrder_insertTags (tags : List TagDraft) :
    (schema.insertTags tags).statement.BindsInOrder dialect (schema.insertTags tags).params := by
  refine Statement.bindsInOrder_of_fragment (fun _ => ne_mark_of_isUsual)
    (fragment_insertTags (named_of_check checked) dialect tags) ?_
  rw [keys_insertTags, eraseDups_of_nodup (nodup_rowNames _)]

theorem bindsInOrder_attach (entity : Int64) (id : TagId) :
    (schema.attach entity id).statement.BindsInOrder dialect (schema.attach entity id).params :=
  Statement.bindsInOrder_of_fragment (fun _ => ne_mark_of_isUsual)
    (fragment_attach (named_of_check checked) dialect entity id) rfl

theorem bindsInOrder_detach (entity : Int64) (id : TagId) :
    (schema.detach entity id).statement.BindsInOrder dialect (schema.detach entity id).params :=
  Statement.bindsInOrder_of_fragment (fun _ => ne_mark_of_isUsual)
    (fragment_detach (named_of_check checked) dialect entity id) rfl

theorem bindsInOrder_listAllTags :
    schema.listAllTags.statement.BindsInOrder dialect schema.listAllTags.params :=
  Statement.bindsInOrder_of_fragment (fun _ => ne_mark_of_isUsual)
    (fragment_listAllTags (named_of_check checked) dialect) rfl

end Schema

/-- What a caller can have made: a listing of a filter, of tags or of one entity's tags, or
a change. -/
inductive Schema.Prepares (schema : Schema) : Prepared → Prop
  | entities {σ : Type} [IdCache σ] {cache after : σ} {filter : Filter} {window : PageWindow}
    {prepared : Prepared} :
    (schema.listFiltered filter window).runFrom cache = (.ok prepared, after) →
      Prepares schema prepared
  | tags (query : Tag) (window : PageWindow) : Prepares schema (schema.listTags query window)
  | entityTags (entity : Int64) : Prepares schema (schema.listEntityTags entity)
  | allTags : Prepares schema schema.listAllTags
  | attachment {σ : Type} [IdCache σ] {cache after : σ} {entity : Int64} {tag : Tag}
    {prepared : Prepared} :
    (schema.attachKnown entity tag).runFrom cache = (.ok prepared, after) →
      Prepares schema prepared
  | detachment {σ : Type} [IdCache σ] {cache after : σ} {entity : Int64} {tag : Tag}
    {prepared : Prepared} :
    (schema.detachKnown entity tag).runFrom cache = (.ok prepared, after) →
      Prepares schema prepared
  | creation {tags : List TagDraft} {prepared : Prepared} :
    schema.createTags tags = .ok (some prepared) → Prepares schema prepared

theorem Schema.Prepares.bindsInOrder {schema : Schema} (checked : schema.check = .ok ())
    {prepared : Prepared} (made : schema.Prepares prepared) (dialect : Dialect) :
    prepared.statement.BindsInOrder dialect prepared.params := by
  have named := Schema.named_of_check checked
  have unmarked (character : Char) : isUsual character → character ≠ '$' ∧ character ≠ '?' :=
    ne_mark_of_isUsual
  cases made with
  | @entities _ _ cache after filter window _ ran =>
    obtain ⟨compiled, middle, compiles, last⟩ := Action.of_runFrom_bind_ok ran
    cases last
    obtain ⟨_, resolved, _, made⟩ := Filter.of_compile_ok compiles
    refine Statement.bindsInOrder_of_fragment unmarked
      (fragment_listEntities named dialect compiled window) ?_
    have keys := Filter.eraseDups_slotNames made
    have other (name : String) (start : name.toList.head? ≠ some 'f') :
        name ∉ compiled.params.keys := by
      rw [(Filter.of_compileResolved_ok made).2.2.1, keys_familyParams, List.mem_map]
      rintro ⟨index, _, same⟩
      exact familyParameter_ne start index same
    exact eraseDups_slots_withWindow keys window (other _ (by decide)) (other _ (by decide))
  | tags query window =>
    refine Statement.bindsInOrder_of_fragment unmarked
      (fragment_listTags named dialect query window) ?_
    rcases keys_tagConditionParams query with keys | keys
    · exact eraseDups_slots_withWindow (by rw [keys]; rfl) window (by rw [keys]; decide)
        (by rw [keys]; decide)
    · exact eraseDups_slots_withWindow (by rw [keys]; rfl) window (by rw [keys]; decide)
        (by rw [keys]; decide)
  | entityTags entity =>
    exact Statement.bindsInOrder_of_fragment unmarked (fragment_listEntityTags named dialect entity) rfl
  | allTags => exact bindsInOrder_listAllTags checked dialect
  | attachment ran =>
    obtain ⟨id, rfl⟩ := of_attachKnown_ok (congrArg Prod.fst ran)
    exact bindsInOrder_attach checked dialect _ id
  | detachment ran =>
    obtain ⟨id, rfl⟩ := of_detachKnown_ok (congrArg Prod.fst ran)
    exact Statement.bindsInOrder_of_fragment unmarked (fragment_detach named dialect _ id) rfl
  | creation ran =>
    rw [(Schema.of_createTags_some ran).1]
    exact bindsInOrder_insertTags checked dialect _

/-- The listing of what carries tags of two families that no cache knows. -/
def familyListing : Prepared :=
  ({} : Schema).listEntities {
    predicate := .and (.leaf (.carriesFamily 0)) (.leaf (.carriesFamily 1))
    order := .ofDirectives []
    params := familyParams ["genre", "mood"]
    counts := ⟨2, 0, 2⟩ } ⟨10, 0⟩

theorem Schema.Prepares.bindsInOrder_familyListing :
    ({} : Schema).check = .ok () ∧ ({} : Schema).Prepares familyListing ∧
      familyListing.statement.BindsInOrder .sqlite familyListing.params := by
  have checked : ({} : Schema).check = .ok () := by decide
  have ran : (({} : Schema).listFiltered (.and (Filter.bare "genre") (Filter.bare "mood"))
      ⟨10, 0⟩).runFrom ({ ready := true } : ResidentCache) =
      (.ok familyListing, { ready := true }) := rfl
  exact ⟨checked, .entities ran, (Schema.Prepares.entities ran).bindsInOrder checked .sqlite⟩

end TagQuery
