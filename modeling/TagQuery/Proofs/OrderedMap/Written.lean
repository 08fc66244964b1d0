import TagQuery.Proofs.List.Distinct
import TagQuery.Proofs.OrderedMap.Lookup

/-! Which keys a map has after many writes. -/

namespace TagQuery.OrderedMap

variable {κ υ : Type} [DecidableEq κ]

/-- Entries may be written at once or one part after the other. -/
theorem insertMany_append (map : OrderedMap κ υ) (entries more : List (κ × υ)) :
    map.insertMany (entries ++ more) = (map.insertMany entries).insertMany more :=
  List.foldl_append

/-- The old keys stay where they are, and new ones follow in the order of their first writes. -/
theorem keys_insertMany (map : OrderedMap κ υ) (entries : List (κ × υ)) :
    (map.insertMany entries).keys =
      map.keys ++ ((entries.map Prod.fst).removeAll map.keys).eraseDups := by
  induction entries generalizing map with
  | nil => simp [insertMany]
  | cons entry rest ih =>
    have written : (map.insertMany (entry :: rest)).keys =
        ((map.insert entry.1 entry.2).insertMany rest).keys := rfl
    rw [written, ih, keys_insert, List.map_cons, List.cons_removeAll]
    by_cases known : entry.1 ∈ map.keys
    · rw [if_pos known, if_neg (by simpa using known)]
    · have others : (rest.map Prod.fst).removeAll (map.keys ++ [entry.1]) =
          ((rest.map Prod.fst).removeAll map.keys).filter fun key => !key == entry.1 := by
        simp [List.removeAll, List.filter_filter, Bool.and_comm, beq_eq_decide]
      rw [if_neg known, if_pos (by simpa using known), List.eraseDups_cons, others,
        List.append_assoc]
      rfl

/-- A map made of entries has each of their keys where it is first written. -/
theorem keys_ofList (entries : List (κ × υ)) :
    (ofList entries).keys = (entries.map Prod.fst).eraseDups := by
  have all : (entries.map Prod.fst).removeAll ([] : List κ) = entries.map Prod.fst := by
    simp [List.removeAll]
  rw [ofList, keys_insertMany]
  change [] ++ ((entries.map Prod.fst).removeAll []).eraseDups = _
  rw [all, List.nil_append]

/-- How many entries there are depends on which keys were written and on nothing else. -/
theorem size_insertMany_congr (map : OrderedMap κ υ) {entries entries' : List (κ × υ)}
    (same : ∀ key, key ∈ entries.map Prod.fst ↔ key ∈ entries'.map Prod.fst) :
    (map.insertMany entries).size = (map.insertMany entries').size := by
  have counted (written : OrderedMap κ υ) : written.size = written.keys.length :=
    (List.length_map _).symm
  have fresh (key : κ) : key ∈ (entries.map Prod.fst).removeAll map.keys ↔
      key ∈ (entries'.map Prod.fst).removeAll map.keys := by
    simp [List.removeAll, same]
  rw [counted, counted, keys_insertMany, keys_insertMany, List.length_append, List.length_append,
    length_eraseDups_congr fresh]

end TagQuery.OrderedMap
