import TagQuery.Number.Shortest
import TagQuery.OrderedMap
import TagQuery.Tag.Basic
import TagQuery.Text.Quoted

/-!
The scalars that statements bind and rows hold, and the named parameters of a statement.
-/

namespace TagQuery

inductive Value where
  | null
  | integer (value : Int64)
  | real (value : Number.Binary64)
  | text (content : String)
deriving DecidableEq, Repr

namespace Value

/-- The name of a value's type in diagnostics. -/
def kind : Value → String
  | .null => "null"
  | .integer _ => "integer"
  | .real _ => "real"
  | .text _ => "text"

/-- A value as diagnostics show it. -/
def display : Value → String
  | .null => "NULL"
  | .integer value => Number.writeInt64 value
  | .real value => value.text
  | .text content => Text.quoted content

/-- The value of a tag identifier. -/
def ofTagId (id : TagId) : Value := .integer id.value

/-- The value of an unsigned word of 32 bits, which always fits. -/
def ofUInt32 (value : UInt32) : Value := .integer (Int64.ofNat value.toNat)

/-- Nothing becomes null. -/
def ofOption (value : Option Value) : Value := value.getD .null

/-- The value of a text that may be missing. -/
def ofText? (content : Option String) : Value := ofOption (content.map .text)

end Value

/-- Parameter values by name, in the order in which the names were first given. -/
abbrev Params := OrderedMap String Value

end TagQuery
