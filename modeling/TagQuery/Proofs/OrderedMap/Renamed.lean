import TagQuery.Proofs.OrderedMap.Lookup

/-! Maps whose keys are renamed apart: they are written and looked up as before. -/

namespace TagQuery.OrderedMap

variable {κ κ' υ υ' : Type}

/-- The same entries in the same places, under other keys and with other values. -/
def renamed (name : κ → κ') (change : υ → υ') (map : OrderedMap κ υ) : OrderedMap κ' υ' :=
  ⟨map.entries.map (Prod.map name change)⟩

@[simp] theorem size_renamed (name : κ → κ') (change : υ → υ') (map : OrderedMap κ υ) :
    (map.renamed name change).size = map.size :=
  List.length_map _

variable [DecidableEq κ] [DecidableEq κ'] {name : κ → κ'} (apart : Function.Injective name)
  (change : υ → υ')
include apart

theorem get?_renamed (map : OrderedMap κ υ) (key : κ) :
    (map.renamed name change).get? (name key) = (map.get? key).map change := by
  unfold get? renamed
  induction map.entries with
  | nil => rfl
  | cons entry rest ih =>
    rw [List.map_cons, lookup_cons_entry, lookup_cons_entry, ih]
    by_cases same : key = entry.1
    · simp [same]
    · have other : name key ≠ name entry.1 := fun names => same (apart names)
      simp [same, other]

private theorem write_renamed (key : κ) (value : υ) (entries : List (κ × υ)) :
    write (name key) (change value) (entries.map (Prod.map name change)) =
      (write key value entries).map (Prod.map name change) := by
  induction entries with
  | nil => rfl
  | cons entry rest ih =>
    by_cases same : entry.1 = key
    · simp [write, same]
    · have other : name entry.1 ≠ name key := fun names => same (apart names)
      simp [write, same, other, ih]

theorem insert_renamed (map : OrderedMap κ υ) (key : κ) (value : υ) :
    (map.renamed name change).insert (name key) (change value) =
      (map.insert key value).renamed name change :=
  congrArg OrderedMap.mk (write_renamed apart change key value map.entries)

/-- Entries may be renamed before they are written or after. -/
theorem insertMany_renamed (map : OrderedMap κ υ) (entries : List (κ × υ)) :
    (map.renamed name change).insertMany (entries.map (Prod.map name change)) =
      (map.insertMany entries).renamed name change := by
  induction entries generalizing map with
  | nil => rfl
  | cons entry rest ih =>
    calc (map.renamed name change).insertMany ((entry :: rest).map (Prod.map name change))
      _ = ((map.renamed name change).insert (name entry.1) (change entry.2)).insertMany
            (rest.map (Prod.map name change)) := rfl
      _ = ((map.insert entry.1 entry.2).renamed name change).insertMany
            (rest.map (Prod.map name change)) := by rw [insert_renamed apart]
      _ = (map.insertMany (entry :: rest)).renamed name change := ih (map.insert entry.1 entry.2)

end TagQuery.OrderedMap
