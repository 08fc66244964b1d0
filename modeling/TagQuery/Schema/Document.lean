import TagQuery.Data.Json.Reader
import TagQuery.Data.Toml.Reader
import TagQuery.Schema.Validity

/-!
Schemas in configuration documents. Every section and every setting may be missing and
then has its default; a section or setting that is not known is refused.

A section may also be written as a list of its settings in their fixed order, of which
the last ones may be missing.
-/

namespace TagQuery

/-- In what the document formats differ when a schema is read. -/
structure DocumentFormat where
  /-- Whether a section written as a list may have items beyond its settings. -/
  surplusItems : Bool
  /-- What stands beside a dialect that is written as the key of a record. -/
  isPayload : Data → Bool

namespace DocumentFormat

def json : DocumentFormat where
  surplusItems := false
  isPayload
    | .null => true
    | _ => false

def toml : DocumentFormat where
  surplusItems := true
  isPayload
    | .record [] | .list [] => true
    | _ => false

/-- The settings of a section by name, if all of them are known and none is repeated. -/
def settings? (format : DocumentFormat) (names : List String) :
    Data → Option (List (String × Data))
  | .record fields => do
    let settings ← fields.mapM fun (name, data) => name.map fun known => (known, data)
    guard (settings.all fun setting => names.contains setting.1)
    guard (settings.map Prod.fst).Nodup
    return settings
  | .list items => do
    guard (format.surplusItems ∨ items.length ≤ names.length)
    return names.zip items
  | _ => none

end DocumentFormat

/-- Read a setting, or keep its default when it is missing. -/
def settingOr {α : Type} (default : α) (read : Data → Option α)
    (settings : List (String × Data)) (name : String) : Option α :=
  match settings.lookup name with
  | none => some default
  | some data => read data

def Data.text? : Data → Option String
  | .text content => content
  | _ => none

def Data.texts? : Data → Option (List String)
  | .list items => items.mapM Data.text?
  | _ => none

namespace DocumentFormat

def dialect? (format : DocumentFormat) : Data → Option Dialect
  | .text content => content.bind Dialect.ofName?
  | .record [(name, payload)] =>
    if format.isPayload payload then name.bind Dialect.ofName? else none
  | _ => none

def entity? (format : DocumentFormat) (data : Data) : Option EntityTable := do
  let settings ← format.settings? ["table", "id_column", "created_column", "columns"] data
  let default : EntityTable := {}
  return {
    table := ← settingOr default.table Data.text? settings "table"
    idColumn := ← settingOr default.idColumn Data.text? settings "id_column"
    createdColumn := ← settingOr default.createdColumn Data.text? settings "created_column"
    columns := ← settingOr default.columns Data.texts? settings "columns" }

def tags? (format : DocumentFormat) (data : Data) : Option TagTable := do
  let settings ← format.settings? ["table"] data
  let default : TagTable := {}
  return { table := ← settingOr default.table Data.text? settings "table" }

def association? (format : DocumentFormat) (data : Data) : Option AssociationTable := do
  let settings ← format.settings? ["table", "entity_column", "tag_column"] data
  let default : AssociationTable := {}
  return {
    table := ← settingOr default.table Data.text? settings "table"
    entityColumn := ← settingOr default.entityColumn Data.text? settings "entity_column"
    tagColumn := ← settingOr default.tagColumn Data.text? settings "tag_column" }

def cache? (format : DocumentFormat) (data : Data) : Option CacheSettings := do
  let settings ← format.settings? ["key_prefix"] data
  let default : CacheSettings := {}
  return { keyStart := ← settingOr default.keyStart Data.text? settings "key_prefix" }

def schema? (format : DocumentFormat) (data : Data) : Option Schema := do
  let settings ← format.settings? ["dialect", "entity", "tags", "association", "cache"] data
  let default : Schema := {}
  return {
    dialect := ← settingOr default.dialect format.dialect? settings "dialect"
    entity := ← settingOr default.entity format.entity? settings "entity"
    tags := ← settingOr default.tags format.tags? settings "tags"
    association := ← settingOr default.association format.association? settings "association"
    cache := ← settingOr default.cache format.cache? settings "cache" }

end DocumentFormat

namespace Schema

/-- A schema in JSON, which is not checked. -/
def ofJson? (document : String) : Option Schema :=
  Json.read? document >>= DocumentFormat.json.schema?

def ofToml? (document : String) : Option Schema :=
  Toml.read? document >>= DocumentFormat.toml.schema?

/-- A schema in TOML that passes the check. -/
def ofToml (document : String) : Except ConfigFault Schema :=
  match ofToml? document with
  | none => .error (.unparsable "not a configuration document")
  | some schema => do
    schema.check
    return schema

/-- A schema in a file, of which the system gave the bytes or the reason why not. -/
def ofFile (path : String) (content : Except String ByteArray) : Except ConfigFault Schema :=
  match content with
  | .error reason => .error (.unreadable path reason)
  | .ok bytes =>
    match String.fromUTF8? bytes with
    | none => .error (.unreadable path "stream did not contain valid UTF-8")
    | some document => ofToml document

end Schema

end TagQuery
