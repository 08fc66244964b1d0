import Mathlib.Data.Finset.Card
import TagQuery.Proofs.List.First
import TagQuery.Proofs.OrderedMap.Written

/-! What a map shows that was made from nothing: the last value written to each key, where the key
was first written. -/

namespace TagQuery.OrderedMap

variable {κ υ : Type}

/-- A step in the making of a map: one key is written, in place or into a copy, or another map is
laid over it. -/
inductive Edit (κ υ : Type) where
  | insert (key : κ) (value : υ)
  | extend (newer : OrderedMap κ υ)

/-- The writes that a step comes to. -/
def Edit.writes : Edit κ υ → List (κ × υ)
  | .insert key value => [(key, value)]
  | .extend newer => newer.entries

/-- Of the writes to a key the last one gives it a value. -/
def LastWrite (writes : List (κ × υ)) (key : κ) (value : υ) : Prop :=
  ∃ before after, writes = before ++ (key, value) :: after ∧ ∀ later ∈ after, later.1 ≠ key

variable [DecidableEq κ]

def edit (map : OrderedMap κ υ) : Edit κ υ → OrderedMap κ υ
  | .insert key value => map.insert key value
  | .extend newer => map.extend newer

/-- The map that steps make from nothing. -/
def ofEdits (edits : List (Edit κ υ)) : OrderedMap κ υ :=
  edits.foldl edit empty

/-- What a map shows after writes. Its keys are distinct and stand in the order of their first
writes, a key has the value of its last write, and there is an entry for each key written. -/
structure Shows (map : OrderedMap κ υ) (writes : List (κ × υ)) : Prop where
  distinct : map.keys.Nodup
  order : FirstVisits (writes.map Prod.fst) map.keys
  found : ∀ key value, map.get? key = some value ↔ LastWrite writes key value
  absent : ∀ key, map.get? key = none ↔ key ∉ writes.map Prod.fst
  listed : ∀ entry ∈ map.entries, map.get? entry.1 = some entry.2
  size : map.size = (writes.map Prod.fst).toFinset.card

section Run

/-- A step is its writes one after another. -/
theorem edit_eq (map : OrderedMap κ υ) (step : Edit κ υ) :
    map.edit step = map.insertMany step.writes := by
  cases step <;> rfl

theorem foldl_edit (map : OrderedMap κ υ) (edits : List (Edit κ υ)) :
    edits.foldl edit map = map.insertMany (edits.flatMap Edit.writes) := by
  induction edits generalizing map with
  | nil => rfl
  | cons step rest ih =>
    rw [List.foldl_cons, ih, edit_eq, List.flatMap_cons, insertMany_append]

theorem ofEdits_eq (edits : List (Edit κ υ)) :
    ofEdits edits = ofList (edits.flatMap Edit.writes) :=
  foldl_edit empty edits

end Run

section Writes

variable (writes : List (κ × υ))

private theorem nodup_keys_ofList : (ofList writes).keys.Nodup := by
  rw [keys_ofList]
  exact nodup_eraseDups _

private theorem lookup_reverse_iff (key : κ) (value : υ) :
    writes.reverse.lookup key = some value ↔ LastWrite writes key value := by
  rw [List.lookup_eq_some_iff]
  constructor
  · intro found
    obtain ⟨after, before, split, others⟩ := found
    refine ⟨before.reverse, after.reverse, ?_, fun later member => ?_⟩
    · rw [← List.reverse_inj, split]
      simp
    · exact Ne.symm (bne_iff_ne.mp (others later (List.mem_reverse.mp member)))
  · intro last
    obtain ⟨before, after, rfl, others⟩ := last
    refine ⟨after.reverse, before.reverse, by simp, fun later member => ?_⟩
    exact bne_iff_ne.mpr (Ne.symm (others later (List.mem_reverse.mp member)))

private theorem size_ofList : (ofList writes).size = (writes.map Prod.fst).toFinset.card := by
  have same : (writes.map Prod.fst).toFinset = (ofList writes).keys.toFinset := by
    ext key
    rw [keys_ofList, List.mem_toFinset, List.mem_toFinset, List.mem_eraseDups]
  rw [same, List.toFinset_card_of_nodup (nodup_keys_ofList writes)]
  exact (List.length_map _).symm

theorem shows_ofList : (ofList writes).Shows writes where
  distinct := nodup_keys_ofList writes
  order := by
    rw [keys_ofList]
    exact firstVisits_eraseDups _
  found key value := by rw [get?_ofList, lookup_reverse_iff]
  absent key := by rw [get?_ofList, lookup_reverse_eq_none_iff]
  listed _ member := get?_of_mem (nodup_keys_ofList writes) member
  size := size_ofList writes

end Writes

section Extend

variable {map newer : OrderedMap κ υ}

/-- Where both maps have a key, the newer value stays. -/
theorem get?_extend (distinct : newer.keys.Nodup) (key : κ) :
    (map.extend newer).get? key = (newer.get? key).or (map.get? key) := by
  have alone : ofList newer.entries = newer := ofList_of_nodup distinct
  rw [extend, get?_insertMany, ← get?_ofList, alone]

/-- The old keys keep their places. -/
theorem keys_prefix_extend : map.keys <+: (map.extend newer).keys := by
  rw [extend, keys_insertMany]
  exact List.prefix_append _ _

theorem extend_ofEdits (edits : List (Edit κ υ)) (newer : OrderedMap κ υ) :
    (ofEdits edits).extend newer =
      ofEdits (edits ++ newer.entries.map fun entry => .insert entry.1 entry.2) := by
  rw [ofEdits, ofEdits, List.foldl_append, List.foldl_map]
  rfl

end Extend

/-- A map such as the parameters of a statement remembers what is written to it: after any steps
from nothing it shows their writes. Laying another map over it writes the entries of that one
after another, so that the newer values stay and the keys that were there keep their places. -/
theorem ofEdits_remembers (edits : List (Edit κ υ)) :
    (ofEdits edits).Shows (edits.flatMap Edit.writes) ∧
    ∀ more : List (Edit κ υ),
      (ofEdits edits).extend (ofEdits more) =
        ofEdits (edits ++ (ofEdits more).entries.map fun entry => .insert entry.1 entry.2) ∧
      (∀ key, ((ofEdits edits).extend (ofEdits more)).get? key =
        ((ofEdits more).get? key).or ((ofEdits edits).get? key)) ∧
      (ofEdits edits).keys <+: ((ofEdits edits).extend (ofEdits more)).keys := by
  constructor
  · rw [ofEdits_eq]
    exact shows_ofList _
  · intro more
    have distinct : (ofEdits more).keys.Nodup := by
      rw [ofEdits_eq]
      exact (shows_ofList _).distinct
    exact ⟨extend_ofEdits edits _, get?_extend distinct, keys_prefix_extend⟩

example : (ofEdits [.insert "a" 1, .insert "b" 2, .extend ⟨[("c", 3), ("a", 4)]⟩]).entries =
    [("a", 4), ("b", 2), ("c", 3)] := by decide

end TagQuery.OrderedMap
