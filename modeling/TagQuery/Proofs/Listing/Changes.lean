import TagQuery.Proofs.Listing.Slots

/-! The tags of an insert and the names of its parameters. -/

namespace TagQuery

private theorem rowParameter_injective {column column' : String} {index index' : Nat}
    (named : column ∈ ["key", "value", "type"]) (named' : column' ∈ ["key", "value", "type"])
    (same : Schema.rowParameter column index = Schema.rowParameter column' index') :
    column = column' ∧ index = index' := by
  have texts := congrArg String.toList same
  simp only [Schema.rowParameter, String.toList_append] at texts
  simp only [List.mem_cons, List.not_mem_nil, or_false] at named named'
  rcases named with rfl | rfl | rfl <;> rcases named' with rfl | rfl | rfl <;>
    simp at texts ⊢ <;> exact Number.writeNat_injective (String.ext texts)

theorem nodup_rowNames (size : Nat) : ((List.range size).flatMap rowNames).Nodup := by
  rw [List.nodup_flatMap]
  constructor
  · intro index _
    refine List.Nodup.map_on ?_ (by decide)
    exact fun _ named _ named' same => (rowParameter_injective named named' same).1
  · refine List.nodup_range.imp ?_
    intro _ _ different name member member'
    obtain ⟨column, named, rfl⟩ := List.mem_map.mp member
    obtain ⟨column', named', same⟩ := List.mem_map.mp member'
    exact different (rowParameter_injective named' named same).2.symm

private theorem map_fst_draftParams (tags : List TagDraft) :
    ((tags.mapIdx Schema.draftParams).flatten).map Prod.fst =
      (List.range tags.length).flatMap rowNames := by
  have rows : (tags.mapIdx Schema.draftParams).map (List.map Prod.fst) =
      (List.range tags.length).map rowNames := by
    apply List.ext_getElem
    · simp
    · intro index inside _
      simp [Schema.draftParams, rowNames]
  rw [List.map_flatten, rows, List.flatMap_def]

/-- The parameters of an insert have names of their own, row by row. -/
theorem params_insertTags (schema : Schema) (tags : List TagDraft) :
    (schema.insertTags tags).params = ⟨(tags.mapIdx Schema.draftParams).flatten⟩ := by
  apply OrderedMap.ofList_of_nodup
  rw [map_fst_draftParams]
  exact nodup_rowNames _

theorem keys_insertTags (schema : Schema) (tags : List TagDraft) :
    (schema.insertTags tags).params.keys = (List.range tags.length).flatMap rowNames := by
  rw [params_insertTags, OrderedMap.keys, map_fst_draftParams]

theorem values_insertTags (schema : Schema) (tags : List TagDraft) :
    (schema.insertTags tags).params.values = tags.flatMap fun new =>
      [.text new.tag.key, .ofText? new.tag.value, .text new.type.name] := by
  have rows : (tags.mapIdx Schema.draftParams).map (List.map Prod.snd) = tags.map fun new =>
      [.text new.tag.key, .ofText? new.tag.value, .text new.type.name] := by
    apply List.ext_getElem
    · simp
    · intro index inside _
      simp [Schema.draftParams]
  rw [params_insertTags, OrderedMap.values, List.map_flatten, rows, List.flatMap_def]

namespace Schema

variable {schema : Schema} {tags : List TagDraft}

theorem map_signature_distinctTags (tags : List TagDraft) :
    (distinctTags tags).map (fun new => new.tag.signature) =
      (tags.map fun new => new.tag.signature).eraseDups :=
  map_eraseDupsBy _ tags

theorem length_distinctTags (tags : List TagDraft) :
    (distinctTags tags).length = (tags.map fun new => new.tag.signature).eraseDups.length := by
  rw [← map_signature_distinctTags, List.length_map]

theorem nodup_distinctTags (tags : List TagDraft) :
    ((distinctTags tags).map fun new => new.tag.signature).Nodup := by
  rw [map_signature_distinctTags]
  exact nodup_eraseDups _

theorem distinctTags_subset (tags : List TagDraft) : distinctTags tags ⊆ tags :=
  subset_of_eraseDupsBy _ tags

/-- Valid tags have an insert, unless there are none. -/
theorem createTags_of_valid (valid : ∀ new ∈ tags, new.tag.check = .ok ()) :
    schema.createTags tags =
      .ok (if tags = [] then none else some (schema.insertTags (distinctTags tags))) := by
  unfold createTags
  rw [Outcome.forM_ok_iff.mpr valid]
  change (if tags = [] then _ else _) = _
  split <;> rfl

/-- An insert is one of distinct valid tags. -/
theorem of_createTags_some {prepared : Prepared} (made : schema.createTags tags = .ok (some prepared)) :
    prepared = schema.insertTags (distinctTags tags) ∧
      ∀ new ∈ distinctTags tags, new.tag.check = .ok () := by
  obtain ⟨_, checked, more⟩ := Outcome.of_bind_ok made
  have valid := Outcome.forM_ok_iff.mp checked
  split at more
  · cases more
  · cases more
    exact ⟨rfl, fun new member => valid new (distinctTags_subset tags member)⟩

variable {σ : Type} [IdCache σ] {cache : σ} {entity : Int64} {tag : Tag} {prepared : Prepared}

theorem of_attachKnown_ok (made : ((schema.attachKnown entity tag).runFrom cache).1 = .ok prepared) :
    ∃ id, prepared = schema.attach entity id := by
  obtain ⟨id, _, _, last⟩ := Action.of_runFrom_bind_ok (Prod.ext made rfl)
  cases last
  exact ⟨id, rfl⟩

theorem of_detachKnown_ok (made : ((schema.detachKnown entity tag).runFrom cache).1 = .ok prepared) :
    ∃ id, prepared = schema.detach entity id := by
  obtain ⟨id, _, _, last⟩ := Action.of_runFrom_bind_ok (Prod.ext made rfl)
  cases last
  exact ⟨id, rfl⟩

end Schema

end TagQuery
