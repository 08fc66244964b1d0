import TagQuery.Data.Basic
import TagQuery.OrderedMap

/-!
Tables of a TOML document while it is read. How a table came about decides how it may
be added to.
-/

namespace TagQuery.Toml

inductive TableOrigin where
  /-- Named by a header of its own, or the table of the whole document. -/
  | header
  /-- Named only by the headers of tables inside it. -/
  | implied
  /-- Named by a dotted key. -/
  | dotted
deriving DecidableEq

inductive Node where
  | value (data : Data)
  | table (origin : TableOrigin) (fields : List (String × Node))
  /-- The tables of headers in double brackets, the latest last. -/
  | tables (items : List Node)

/-- Change the table at the end of a path; tables that are not there yet are made. A path
goes through the latest of several tables, and never through a value. A path of a dotted
key does not go through a table with a header of its own. -/
def alterAt (dotted : Bool) (change : Node → Option Node) : List String → Node → Option Node
  | key :: path, .table origin fields =>
    let enter (child : Node) : Option Node := do
      let changed ← alterAt dotted change path child
      return .table origin (OrderedMap.write key changed fields)
    match fields.lookup key with
    | none => enter (.table (if dotted then .dotted else .implied) [])
    | some (.table .header inner) => if dotted then none else enter (.table .header inner)
    | some (.tables items) => do
      let changed ← alterAt dotted change path (← items.getLast?)
      return .table origin (OrderedMap.write key (.tables (items.dropLast ++ [changed])) fields)
    | some child => enter child
  | [], node => change node
  | _ :: _, _ => none

/-- Add a value to a table that does not have its key. The last table of a dotted key is
one that dotted keys made. -/
def addValue (viaPath : Bool) (key : String) (data : Data) : Node → Option Node
  | .table origin fields =>
    if (origin = .dotted) = viaPath ∧ (fields.lookup key).isNone then
      some (.table origin (fields ++ [(key, .value data)]))
    else none
  | _ => none

/-- Begin a table under its header. Only headers of tables inside it may have come first. -/
def beginTable (key : String) : Node → Option Node
  | .table origin fields =>
    match fields.lookup key with
    | none => some (.table origin (fields ++ [(key, .table .header [])]))
    | some (.table .implied inner) =>
      some (.table origin (OrderedMap.write key (.table .header inner) fields))
    | some _ => none
  | _ => none

/-- Begin one more of several tables under one header. -/
def beginNextTable (key : String) : Node → Option Node
  | .table origin fields =>
    match fields.lookup key with
    | none => some (.table origin (fields ++ [(key, .tables [.table .header []])]))
    | some (.tables items) =>
      some (.table origin (OrderedMap.write key (.tables (items ++ [.table .header []])) fields))
    | some _ => none
  | _ => none

/-- Split a key into the path to its table and its last part. -/
def splitKey : List String → Option (List String × String)
  | [] => none
  | [last] => some ([], last)
  | part :: rest => (splitKey rest).map fun (path, last) => (part :: path, last)

/-- Give a key of a table a value. -/
def assign (key : List String) (data : Data) (table : Node) : Option Node := do
  let (path, last) ← splitKey key
  alterAt true (addValue (!path.isEmpty) last data) path table

mutual

/-- What a finished table says. -/
def Node.data : Node → Data
  | .value data => data
  | .table _ fields => .record (fieldsData fields)
  | .tables items => .list (itemsData items)

def fieldsData : List (String × Node) → List (Option String × Data)
  | [] => []
  | (key, node) :: rest => (some key, node.data) :: fieldsData rest

def itemsData : List Node → List Data
  | [] => []
  | node :: rest => node.data :: itemsData rest

end

end TagQuery.Toml
