import Mathlib.Data.List.Nodup
import TagQuery.Listing.Compiled
import TagQuery.Proofs.List.Distinct
import TagQuery.Proofs.Number.Decimal
import TagQuery.Proofs.OrderedMap.Lookup

/-! The families a filter tests for, their numbers in its tests, and the parameters that hold
their keys. -/

namespace TagQuery

/-- Bare tags without an identifier, for each of which any tag of its key will do. -/
def isFamily (resolved : Resolution) (tag : Tag) : Bool :=
  tag.value.isNone && (resolved.get? tag.signature).isNone

/-- The keys of the families a filter tests for, each where it first occurs. -/
def Filter.families (filter : Filter) (resolved : Resolution) : List String :=
  ((filter.subjects.filter (isFamily resolved)).map Tag.key).eraseDups

/-- The test a leaf stands for, when `families` numbers the families by their keys. -/
def Leaf.atom (resolved : Resolution) (families : List String) (leaf : Leaf) :
    Except QueryFault Atom :=
  match leaf.subject? with
  | none => .ok .always
  | some subject =>
    match resolved.get? subject.signature with
    | some id => .ok (.carries id)
    | none =>
      if subject.value.isNone then .ok (.carriesFamily (families.idxOf subject.key))
      else .error (.unknownTag subject.signature)

/-- The parameters that hold the keys of the families. -/
def familyParams (families : List String) : Params :=
  .ofList (families.mapIdx fun index key => (familyParameter index, .text key))

theorem familyParameter_injective : Function.Injective familyParameter := by
  intro first second same
  have texts := congrArg String.toList same
  simp only [familyParameter, String.toList_append, List.append_cancel_left_eq] at texts
  exact Number.writeNat_injective (String.ext texts)

/-- The names of the parameters of families, in the order of the families. -/
theorem map_fst_families (families : List String) :
    (families.mapIdx fun index key => (familyParameter index, Value.text key)).map Prod.fst =
      (List.range families.length).map familyParameter := by
  apply List.ext_getElem <;> simp

theorem familyParams_eq (families : List String) : familyParams families =
    ⟨families.mapIdx fun index key => (familyParameter index, .text key)⟩ := by
  apply OrderedMap.ofList_of_nodup
  rw [map_fst_families]
  exact List.nodup_range.map familyParameter_injective

theorem keys_familyParams (families : List String) :
    (familyParams families).keys = (List.range families.length).map familyParameter := by
  rw [familyParams_eq, OrderedMap.keys, map_fst_families]

/-- The parameter of a number holds the key of the family with that number. -/
theorem get?_familyParams (families : List String) (index : Nat) :
    (familyParams families).get? (familyParameter index) = families[index]?.map .text := by
  cases family : families[index]? with
  | none =>
    have absent : familyParameter index ∉ (familyParams families).keys := by
      rw [keys_familyParams, List.mem_map]
      rintro ⟨other, inside, same⟩
      obtain rfl := familyParameter_injective same
      simp_all
    have unknown := mt ((familyParams families).get?_isSome_iff _).mp absent
    simpa using unknown
  | some key =>
    have distinct : (familyParams families).keys.Nodup := by
      rw [keys_familyParams]
      exact List.nodup_range.map familyParameter_injective
    have entry : (familyParameter index, Value.text key) ∈ (familyParams families).entries := by
      obtain ⟨inside, rfl⟩ := List.getElem?_eq_some_iff.mp family
      rw [familyParams_eq, List.mem_mapIdx]
      exact ⟨index, inside, rfl⟩
    exact OrderedMap.get?_of_mem distinct entry

/-- One more family has the next number, and one of those known has its own. -/
theorem insert_familyParams (families : List String) (key : String) :
    (familyParams families).insert (familyParameter ((pushUnique families key).idxOf key))
      (.text key) = familyParams (pushUnique families key) := by
  unfold pushUnique
  split
  · next known =>
    apply OrderedMap.insert_of_get?
    rw [get?_familyParams, List.getElem?_idxOf known]
    rfl
  · next new =>
    have place : (families ++ [key]).idxOf key = families.length := by
      rw [List.idxOf_append_of_notMem new]
      simp
    have params : familyParams (families ++ [key]) =
        (familyParams families).insert (familyParameter families.length) (.text key) := by
      unfold familyParams OrderedMap.ofList OrderedMap.insertMany
      rw [List.mapIdx_concat, List.foldl_append]
      rfl
    rw [place, params]

end TagQuery
