import TagQuery.OrderedMap

/-! Look-ups after writes, and maps whose keys are written once. -/

namespace TagQuery.OrderedMap

variable {κ υ : Type} [DecidableEq κ]

@[simp] theorem get?_empty (key : κ) : (empty : OrderedMap κ υ).get? key = none := rfl

theorem lookup_cons_entry (key : κ) (entry : κ × υ) (rest : List (κ × υ)) :
    (entry :: rest).lookup key = if key = entry.1 then some entry.2 else rest.lookup key := by
  obtain ⟨name, held⟩ := entry
  by_cases same : key = name
  · simp [same]
  · have test : (key == name) = false := beq_false_of_ne same
    simp only [List.lookup_cons, test, same, ↓reduceIte]

private theorem lookup_write (written key : κ) (value : υ) (entries : List (κ × υ)) :
    (write written value entries).lookup key =
      if key = written then some value else entries.lookup key := by
  induction entries with
  | nil => simp [write, lookup_cons_entry]
  | cons entry rest ih =>
    by_cases found : entry.1 = written
    · by_cases same : key = written <;> simp [write, lookup_cons_entry, found, same]
    · by_cases here : key = entry.1
      · simp [write, lookup_cons_entry, found, here]
      · simp [write, lookup_cons_entry, found, here, ih]

theorem get?_insert (map : OrderedMap κ υ) (written key : κ) (value : υ) :
    (map.insert written value).get? key = if key = written then some value else map.get? key :=
  lookup_write written key value map.entries

@[simp] theorem get?_insert_self (map : OrderedMap κ υ) (key : κ) (value : υ) :
    (map.insert key value).get? key = some value := by
  simp [get?_insert]

/-- After many writes a key has the last value written to it, or else its old one. -/
theorem get?_insertMany (map : OrderedMap κ υ) (entries : List (κ × υ)) (key : κ) :
    (map.insertMany entries).get? key = (entries.reverse.lookup key).or (map.get? key) := by
  induction entries generalizing map with
  | nil => rfl
  | cons entry rest ih =>
    have later := ih (map.insert entry.1 entry.2)
    rw [insertMany, List.foldl_cons]
    rw [insertMany] at later
    rw [later, get?_insert, List.reverse_cons, List.lookup_append, Option.or_assoc]
    by_cases same : key = entry.1 <;> simp [lookup_cons_entry, same]

theorem get?_ofList (entries : List (κ × υ)) (key : κ) :
    (ofList entries).get? key = entries.reverse.lookup key := by
  rw [ofList, get?_insertMany, get?_empty, Option.or_none]

theorem lookup_reverse_eq_none_iff (entries : List (κ × υ)) (key : κ) :
    entries.reverse.lookup key = none ↔ key ∉ entries.map Prod.fst := by
  rw [List.lookup_eq_none_iff]
  constructor
  · intro apart member
    obtain ⟨entry, inside, same⟩ := List.mem_map.mp member
    exact bne_iff_ne.mp (apart entry (List.mem_reverse.mpr inside)) same.symm
  · intro absent entry member
    refine bne_iff_ne.mpr fun same => absent ?_
    exact List.mem_map.mpr ⟨entry, List.mem_reverse.mp member, same.symm⟩

private theorem write_of_not_mem {key : κ} (value : υ) {entries : List (κ × υ)}
    (absent : key ∉ entries.map Prod.fst) :
    write key value entries = entries ++ [(key, value)] := by
  induction entries with
  | nil => rfl
  | cons entry rest ih =>
    simp only [List.map_cons, List.mem_cons, not_or] at absent
    simp [write, Ne.symm absent.1, ih absent.2]

/-- A new key goes to the end. -/
theorem insert_of_not_mem {map : OrderedMap κ υ} {key : κ} (value : υ)
    (absent : key ∉ map.keys) : map.insert key value = ⟨map.entries ++ [(key, value)]⟩ := by
  rw [insert, write_of_not_mem value absent]

private theorem write_of_lookup {key : κ} {value : υ} {entries : List (κ × υ)}
    (found : entries.lookup key = some value) : write key value entries = entries := by
  induction entries with
  | nil => cases found
  | cons entry rest ih =>
    rw [lookup_cons_entry] at found
    by_cases here : key = entry.1
    · rw [if_pos here, Option.some.injEq] at found
      rw [write, if_pos here.symm, here, ← found]
    · rw [if_neg here] at found
      rw [write, if_neg (Ne.symm here), ih found]

/-- Writing what a key has already changes nothing. -/
theorem insert_of_get? {map : OrderedMap κ υ} {key : κ} {value : υ}
    (found : map.get? key = some value) : map.insert key value = map := by
  rw [insert, write_of_lookup found]

private theorem map_fst_write (key : κ) (value : υ) (entries : List (κ × υ)) :
    (write key value entries).map Prod.fst =
      if key ∈ entries.map Prod.fst then entries.map Prod.fst else entries.map Prod.fst ++ [key] := by
  induction entries with
  | nil => rfl
  | cons entry rest ih =>
    by_cases here : entry.1 = key
    · simp [write, here]
    · have others : (write key value (entry :: rest)).map Prod.fst =
          entry.1 :: (write key value rest).map Prod.fst := by simp [write, here]
      rw [others, ih]
      by_cases later : key ∈ rest.map Prod.fst
      · have present : key ∈ (entry :: rest).map Prod.fst := List.mem_cons_of_mem _ later
        rw [if_pos later, if_pos present, List.map_cons]
      · have absent : key ∉ (entry :: rest).map Prod.fst := by
          rw [List.map_cons, List.mem_cons, not_or]
          exact ⟨Ne.symm here, later⟩
        rw [if_neg later, if_neg absent]
        rfl

/-- Which keys are written does not depend on the values. -/
theorem keys_insert (map : OrderedMap κ υ) (key : κ) (value : υ) :
    (map.insert key value).keys = if key ∈ map.keys then map.keys else map.keys ++ [key] :=
  map_fst_write key value map.entries

theorem insertMany_of_nodup {map : OrderedMap κ υ} {entries : List (κ × υ)}
    (distinct : (map.keys ++ entries.map Prod.fst).Nodup) :
    map.insertMany entries = ⟨map.entries ++ entries⟩ := by
  induction entries generalizing map with
  | nil => simp [insertMany]
  | cons entry rest ih =>
    have absent : entry.1 ∉ map.keys := by
      intro member
      rw [List.map_cons, List.nodup_append] at distinct
      exact distinct.2.2 _ member _ List.mem_cons_self rfl
    have written := insert_of_not_mem entry.2 absent
    have distinct' : ((map.insert entry.1 entry.2).keys ++ rest.map Prod.fst).Nodup := by
      simpa [written, keys] using distinct
    have later := ih distinct'
    rw [insertMany] at later
    rw [insertMany, List.foldl_cons, later, written]
    simp

/-- Entries with distinct keys are the map made of them. -/
theorem ofList_of_nodup {entries : List (κ × υ)} (distinct : (entries.map Prod.fst).Nodup) :
    ofList entries = ⟨entries⟩ := by
  have unwritten : ((empty : OrderedMap κ υ).keys ++ entries.map Prod.fst).Nodup := by
    simpa [keys, empty] using distinct
  have written := insertMany_of_nodup unwritten
  simpa [ofList, empty] using written

private theorem lookup_of_mem {entries : List (κ × υ)} (distinct : (entries.map Prod.fst).Nodup)
    {entry : κ × υ} (member : entry ∈ entries) : entries.lookup entry.1 = some entry.2 := by
  induction entries with
  | nil => simp at member
  | cons head rest ih =>
    rw [List.map_cons, List.nodup_cons] at distinct
    rcases List.mem_cons.mp member with here | later
    · subst here
      simp [lookup_cons_entry]
    · have different : entry.1 ≠ head.1 := by
        intro same
        exact distinct.1 (same ▸ List.mem_map.mpr ⟨entry, later, rfl⟩)
      simpa [lookup_cons_entry, different] using ih distinct.2 later

theorem get?_of_mem {map : OrderedMap κ υ} (distinct : map.keys.Nodup) {entry : κ × υ}
    (member : entry ∈ map.entries) : map.get? entry.1 = some entry.2 :=
  lookup_of_mem distinct member

theorem mem_of_get? {map : OrderedMap κ υ} {key : κ} {value : υ} (found : map.get? key = some value) :
    (key, value) ∈ map.entries := by
  unfold get? at found
  induction entries : map.entries generalizing map with
  | nil => simp [entries] at found
  | cons first rest ih =>
    rw [entries, lookup_cons_entry] at found
    by_cases same : key = first.1
    · rw [if_pos same, Option.some.injEq] at found
      subst same found
      exact List.mem_cons_self
    · rw [if_neg same] at found
      exact List.mem_cons_of_mem _ (@ih ⟨rest⟩ found rfl)

/-- A key is written exactly when looking it up finds something. -/
theorem get?_isSome_iff (map : OrderedMap κ υ) (key : κ) :
    (map.get? key).isSome ↔ key ∈ map.keys := by
  simp [get?, keys]

end TagQuery.OrderedMap
