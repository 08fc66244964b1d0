import TagQuery.Proofs.Filter.Leaves
import TagQuery.Proofs.List.First
import TagQuery.Proofs.Listing.Changes
import TagQuery.Proofs.Tag.Signature

/-! Which tags the insert of new tags inserts, and for which tags there is none. -/

namespace TagQuery

/-- Tags that no flaw is found in are told apart by their signatures. -/
theorem Tag.signature_eq_iff {first second : Tag} (checked : first.check = .ok ())
    (checked' : second.check = .ok ()) : first.signature = second.signature ↔ first = second :=
  ⟨signature_injective ((check_ok_iff first).mp checked).2.1 ((check_ok_iff second).mp checked').2.1,
    congrArg signature⟩

namespace Schema

/-- The draft of a tag that has a flaw. -/
def Flawed (new : TagDraft) : Prop := ∃ flaw, new.tag.HasFlaw flaw

/-- The insert of some drafts, a row for each of them. -/
structure Inserts (schema : Schema) (drafts : List TagDraft) (prepared : Prepared) : Prop where
  /-- A row holds its parameters only, and they are numbered by it. -/
  statement_eq : prepared.statement = .insert {
    table := schema.tags.table
    columns := ["key", "value", "type"]
    rows := (List.range drafts.length).map fun row =>
      ["$key_" ++ Number.writeNat row, "$value_" ++ Number.writeNat row,
        "$type_" ++ Number.writeNat row]
    onConflict := some .doNothing
    returning := ["id", "key", "value", "type"] }
  /-- There is no parameter but those of the rows. -/
  params_eq : prepared.params.entries = (drafts.mapIdx fun row new =>
    [("key_" ++ Number.writeNat row, .text new.tag.key),
     ("value_" ++ Number.writeNat row, new.tag.value.elim .null .text),
     ("type_" ++ Number.writeNat row, .text new.type.name)]).flatten

theorem inserts_insertTags (schema : Schema) (drafts : List TagDraft) :
    schema.Inserts drafts (schema.insertTags drafts) where
  statement_eq := by
    have row : draftRow = fun row => ["$key_" ++ Number.writeNat row,
        "$value_" ++ Number.writeNat row, "$type_" ++ Number.writeNat row] := by
      funext row
      simp only [draftRow, rowParameter, List.map_cons, List.map_nil, ← String.append_assoc,
        String.reduceAppend]
    rw [insertTags, row]
    rfl
  params_eq := by
    have params : draftParams = fun row new =>
        [("key_" ++ Number.writeNat row, .text new.tag.key),
         ("value_" ++ Number.writeNat row, new.tag.value.elim .null .text),
         ("type_" ++ Number.writeNat row, .text new.type.name)] := by
      funext row new
      cases stored : new.tag.value <;>
        simp [draftParams, rowParameter, stored, Value.ofText?, Value.ofOption]
    rw [params_insertTags, params]

/-- Each tag of a list is kept once. -/
theorem map_tag_distinctTags {tags : List TagDraft} (valid : ∀ new ∈ tags, new.tag.check = .ok ()) :
    (distinctTags tags).map TagDraft.tag = (tags.map TagDraft.tag).eraseDups := by
  rw [← map_eraseDupsBy, distinctTags]
  refine congrArg (List.map TagDraft.tag) (eraseDupsBy_congr fun later member earlier member' => ?_)
  rw [Bool.eq_iff_iff, beq_iff_eq, beq_iff_eq]
  exact Tag.signature_eq_iff (valid later member) (valid earlier member')

/-- Flawed tags spoil the whole insert, and the first of them is reported. -/
theorem createTags_of_flawed {schema : Schema} {tags : List TagDraft} {new : TagDraft}
    {flaw : TagFlaw} (first : FirstOf Flawed tags new) (flawed : new.tag.HasFlaw flaw) :
    schema.createTags tags = .error (.invalidTag new.tag.key flaw.message) := by
  obtain ⟨before, after, rfl, _, sound⟩ := first
  have stopped : (before ++ new :: after).forM (fun new => new.tag.check) =
      .error (.invalidTag new.tag.key flaw.message) :=
    Outcome.forM_error
      (fun earlier member => Tag.check_of_flawless fun flaw flawed =>
        sound earlier member ⟨flaw, flawed⟩)
      (Tag.check_of_hasFlaw flawed) after
  rw [createTags, stopped]
  rfl

/-- What becomes of a list of new tags: the first flawed one is reported; without one, an empty list
needs no insert, and any other is inserted tag by tag. -/
structure Creates (schema : Schema) (tags : List TagDraft)
    (result : Except QueryFault (Option Prepared)) : Prop where
  flawed : ∀ fault, result = .error fault ↔ ∃ new flaw, FirstOf Flawed tags new ∧
    new.tag.HasFlaw flaw ∧ fault = .invalidTag new.tag.key flaw.message
  nothing : result = .ok none ↔ tags = []
  /-- The rows stand for the distinct tags in the order in which these first occur, and a row has
  the type that its tag has there. -/
  inserted : (∀ new ∈ tags, ¬ Flawed new) → tags ≠ [] → ∃ prepared drafts,
    result = .ok (some prepared) ∧ schema.Inserts drafts prepared ∧
    FirstVisits (tags.map TagDraft.tag) (drafts.map TagDraft.tag) ∧
    ∀ new ∈ drafts, FirstOf (fun other => other.tag = new.tag) tags new

theorem creates_of_flawed {schema : Schema} {tags : List TagDraft}
    (some : ∃ new ∈ tags, Flawed new) : schema.Creates tags (schema.createTags tags) := by
  obtain ⟨new, first⟩ := exists_firstOf some
  have ⟨_, _, _, ⟨flaw, flawed⟩, _⟩ := first
  have failed : schema.createTags tags = .error (.invalidTag new.tag.key flaw.message) :=
    createTags_of_flawed first flawed
  refine ⟨fun fault => ⟨fun same => ?_, ?_⟩, ?_, fun none _ => ?_⟩
  · exact ⟨new, flaw, first, flawed, Except.error.inj (same.symm.trans failed)⟩
  · rintro ⟨other, flaw', first', flawed', rfl⟩
    exact createTags_of_flawed first' flawed'
  · rw [failed]
    refine ⟨nofun, ?_⟩
    rintro rfl
    cases first.mem
  · exact absurd ⟨flaw, flawed⟩ (none new first.mem)

theorem creates_of_flawless {schema : Schema} {tags : List TagDraft}
    (none : ∀ new ∈ tags, ¬ Flawed new) : schema.Creates tags (schema.createTags tags) := by
  have valid : ∀ new ∈ tags, new.tag.check = .ok () := fun new member =>
    Tag.check_of_flawless fun flaw flawed => none new member ⟨flaw, flawed⟩
  rw [createTags_of_valid valid]
  refine ⟨fun fault => ⟨nofun, ?_⟩, ?_, fun _ some => ?_⟩
  · rintro ⟨new, _, first, _⟩
    have ⟨_, _, _, flawed, _⟩ := first
    exact absurd flawed (none new first.mem)
  · by_cases empty : tags = []
    · exact iff_of_true (by rw [if_pos empty]) empty
    · rw [if_neg empty]
      exact iff_of_false nofun empty
  · rw [if_neg some]
    refine ⟨_, distinctTags tags, rfl, schema.inserts_insertTags _, ?_, fun new member => ?_⟩
    · rw [map_tag_distinctTags valid]
      exact firstVisits_eraseDups _
    · rw [distinctTags] at member
      obtain ⟨before, after, split, _, others⟩ := firstOf_of_mem_eraseDupsBy _ member
      exact ⟨before, after, split, rfl,
        fun other inside same => others other inside (congrArg Tag.signature same)⟩

/-- One list of new tags comes to one insert with a row for each of its tags, and no two of them
share a row: tags without a flaw have one signature only when they are one tag. -/
theorem createTags_outcome (schema : Schema) (tags : List TagDraft) :
    schema.Creates tags (schema.createTags tags) ∧
    ∀ first second : Tag, first.check = .ok () → second.check = .ok () →
      (first.signature = second.signature ↔ first = second) := by
  refine ⟨?_, fun _ _ checked checked' => Tag.signature_eq_iff checked checked'⟩
  by_cases some : ∃ new ∈ tags, Flawed new
  · exact creates_of_flawed some
  · exact creates_of_flawless fun new member flawed => some ⟨new, member, flawed⟩

end Schema

end TagQuery
