import TagQuery.Data.Basic

/-!
Reading records of named fields. A record may also be written as the list of its fields
in their fixed order. Fields that are not known are passed over.
-/

namespace TagQuery

/-- Types that a document can be read as. -/
class OfData (α : Type) where
  ofData? : Data → Option α

instance : OfData String where
  ofData?
    | .text content => content
    | _ => none

instance : OfData Int64 where
  ofData?
    | .integer value =>
      if Int64.minValue.toInt ≤ value ∧ value ≤ Int64.maxValue.toInt then some (.ofInt value)
      else none
    | _ => none

instance : OfData UInt32 where
  ofData?
    | .integer value =>
      if 0 ≤ value ∧ value < UInt32.size then some (.ofNat value.toNat) else none
    | _ => none

instance : OfData UInt64 where
  ofData?
    | .integer value =>
      if 0 ≤ value ∧ value < UInt64.size then some (.ofNat value.toNat) else none
    | _ => none

variable {α : Type} [OfData α]

instance : OfData (Option α) where
  ofData?
    | .null => some none
    | data => (OfData.ofData? data).map some

instance : OfData (List α) where
  ofData?
    | .list items => items.mapM OfData.ofData?
    | _ => none

/-- The known fields of a record, none of which may be repeated. -/
def Data.fields? (names : List String) : Data → Option (List (String × Data))
  | .record fields => do
    let named ← fields.mapM fun (name, data) => name.map fun known => (known, data)
    let known := named.filter fun field => names.contains field.1
    guard (known.map Prod.fst).Nodup
    return known
  | .list items => if items.length = names.length then some (names.zip items) else none
  | _ => none

/-- A field that has to be there. -/
def required (fields : List (String × Data)) (name : String) : Option α :=
  fields.lookup name >>= OfData.ofData?

/-- A field that may be missing, which means the same as null. -/
def optional (fields : List (String × Data)) (name : String) : Option (Option α) :=
  match fields.lookup name with
  | none => some none
  | some data => OfData.ofData? data

end TagQuery
