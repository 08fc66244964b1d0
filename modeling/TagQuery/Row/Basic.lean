import TagQuery.Statement.Value

/-!
Result rows: named values in the order of the columns, where a name may occur more than
once and then stands for its first column.
-/

namespace TagQuery

structure Row where
  columns : List (String × Value) := []
deriving DecidableEq, Repr

/-- What makes a row unfit for the shape asked of it. -/
inductive RowFlaw where
  | missingColumn (column : String)
  | typeMismatch (column expected found : String)
  | invalid (column reason : String)
deriving DecidableEq, Repr

def RowFlaw.message : RowFlaw → String
  | .missingColumn column => "missing column '" ++ column ++ "'"
  | .typeMismatch column expected found =>
    "column '" ++ column ++ "' expected " ++ expected ++ ", found " ++ found
  | .invalid column reason => "column '" ++ column ++ "' is invalid: " ++ reason

/-- The columns without the first of a name. -/
def withoutFirst (name : String) : List (String × Value) → List (String × Value)
  | [] => []
  | column :: rest => if column.1 = name then rest else column :: withoutFirst name rest

namespace Row

def get? (row : Row) (column : String) : Option Value :=
  row.columns.lookup column

def remove (row : Row) (column : String) : Row :=
  ⟨withoutFirst column row.columns⟩

def size (row : Row) : Nat := row.columns.length

end Row

/-- Types that a single value can be read as. -/
class Scalar (α : Type) where
  /-- The name of the type in diagnostics. -/
  expected : String
  read? : Value → Option α

instance : Scalar Int64 where
  expected := "integer"
  read?
    | .integer value => some value
    | _ => none

/-- A whole number is read as the real number nearest to it. -/
instance : Scalar Number.Binary64 where
  expected := "real"
  read?
    | .real value => some value
    | .integer value => some (.ofInt64 value)
    | _ => none

/-- Truth values are stored as zero and one. -/
instance : Scalar Bool where
  expected := "boolean"
  read?
    | .integer value => if value = 0 then some false else if value = 1 then some true else none
    | _ => none

instance : Scalar String where
  expected := "text"
  read?
    | .text content => some content
    | _ => none

instance : Scalar Value where
  expected := "any"
  read? := some

instance {α : Type} [Scalar α] : Scalar (Option α) where
  expected := Scalar.expected α
  read?
    | .null => some none
    | value => (Scalar.read? value).map some

/-- Read one column. -/
def Row.read (α : Type) [Scalar α] (row : Row) (column : String) : Except RowFlaw α :=
  match row.get? column with
  | none => .error (.missingColumn column)
  | some value =>
    match Scalar.read? value with
    | some read => .ok read
    | none => .error (.typeMismatch column (Scalar.expected α) value.kind)

/-- Types that a whole row can be read as. -/
class RowShape (α : Type) where
  ofRow : Row → Except RowFlaw α

instance : RowShape Row where
  ofRow := .ok

instance : RowShape StoredTag where
  ofRow row := do
    let id ← row.read Int64 "id"
    let key ← row.read String "key"
    let value ← row.read (Option String) "value"
    let type ← row.read String "type"
    return { id := ⟨id⟩, key, value, type := ⟨type⟩ }

instance : RowShape TagUsage where
  ofRow row := do
    let record ← RowShape.ofRow row
    let count ← row.read Int64 "usage_count"
    return { record, count }

end TagQuery
