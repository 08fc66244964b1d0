import TagQuery.Text.Blank
import TagQuery.Number.Decimal

/-!
Tags: what a caller names, the signature that identifies it, and the record the store
keeps of it.
-/

namespace TagQuery

/-- The identity of a tag as text: `key` alone, or `key:value`. -/
structure Signature where
  text : String
deriving DecidableEq, Repr

/-- The number the store gave to a tag. -/
structure TagId where
  value : Int64
deriving DecidableEq, Repr

def TagId.text (id : TagId) : String :=
  Number.writeInt64 id.value

/-- The classifier a tag is stored with. Filters never look at it. -/
structure TagKind where
  name : String
deriving DecidableEq, Repr

namespace TagKind

def ordinary : TagKind := ⟨"default"⟩

def system : TagKind := ⟨"meta"⟩

end TagKind

/-- A bare tag has a key only; a valued tag has a value as well. -/
structure Tag where
  key : String
  value : Option String := none
deriving DecidableEq, Repr

namespace Tag

def bare (key : String) : Tag := ⟨key, none⟩

def valued (key value : String) : Tag := ⟨key, some value⟩

/-- The value a text stands for: an empty text stands for none. -/
def valueOf (characters : List Char) : Option String :=
  if characters.isEmpty then none else some (String.ofList characters)

/-- The tag that raw text names. The first colon divides key from value, white space
around either is dropped, and a value of which nothing is left makes a bare tag. -/
def parse (raw : String) : Tag where
  key := String.ofList (Text.trimChars (raw.toList.takeWhile (· != ':')))
  value := valueOf (Text.trimChars ((raw.toList.dropWhile (· != ':')).drop 1))

def signature (tag : Tag) : Signature :=
  match tag.value with
  | some value => ⟨tag.key ++ ":" ++ value⟩
  | none => ⟨tag.key⟩

end Tag

/-- Signatures in ascending order of their text, each once. Text is ordered by code
points, which is also the order of its UTF-8 bytes. -/
def Signature.sortDistinct (signatures : List Signature) : List Signature :=
  (signatures.mergeSort fun left right => decide (left.text ≤ right.text)).eraseDups

/-- A tag and the classifier to store it with. -/
structure TagDraft where
  tag : Tag
  type : TagKind := .ordinary
deriving DecidableEq, Repr

/-- A stored tag. -/
structure StoredTag where
  id : TagId
  key : String
  value : Option String
  type : TagKind
deriving DecidableEq, Repr

namespace StoredTag

def tag (record : StoredTag) : Tag := ⟨record.key, record.value⟩

def signature (record : StoredTag) : Signature := record.tag.signature

end StoredTag

/-- A stored tag and the number of entities that carry it. -/
structure TagUsage where
  record : StoredTag
  count : Int64
deriving DecidableEq, Repr

end TagQuery
