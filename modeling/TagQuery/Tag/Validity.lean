import TagQuery.Tag.Basic

/-!
Tags that can be told apart by their signatures: a key that is not empty and holds no
colon, and a value, if any, that is not empty. No statement is made of any other tag.
-/

namespace TagQuery

/-- Why a tag is refused, in the order in which the reasons are looked for. -/
inductive TagFlaw where
  | emptyKey
  | colonInKey
  | emptyValue
deriving DecidableEq, Repr

def TagFlaw.message : TagFlaw → String
  | .emptyKey => "key is empty"
  | .colonInKey => "key contains ':'"
  | .emptyValue => "value is empty"

namespace Tag

def flaw? (tag : Tag) : Option TagFlaw :=
  if tag.key = "" then some .emptyKey
  else if ':' ∈ tag.key.toList then some .colonInKey
  else if tag.value = some "" then some .emptyValue
  else none

end Tag

/-- A filter or a tag that no statement can be made of. -/
inductive QueryFault where
  | unknownTag (signature : Signature)
  | invalidTag (key reason : String)
deriving DecidableEq, Repr

def QueryFault.message : QueryFault → String
  | .unknownTag signature => "unknown tag '" ++ signature.text ++ "'"
  | .invalidTag key reason => "invalid tag '" ++ key ++ "': " ++ reason

/-- A tag has to be one that its signature tells apart. -/
def Tag.check (tag : Tag) : Except QueryFault Unit :=
  match tag.flaw? with
  | none => .ok ()
  | some flaw => .error (.invalidTag tag.key flaw.message)

end TagQuery
