import TagQuery.Filter.Formula
import TagQuery.Schema.Basic
import TagQuery.Tag.Basic

/-!
Predicates on the association rows of one entity, and their SQL text. The text names a
family of tags by a parameter, so that no text of a caller stands in it.
-/

namespace TagQuery

inductive Atom where
  | always
  /-- The entity carries the tag. -/
  | carries (id : TagId)
  /-- The entity carries a tag with the key of a numbered family. -/
  | carriesFamily (index : Nat)
deriving DecidableEq, Repr

abbrev Predicate := Formula Atom

/-- The parameter that holds the key of a family. -/
def familyParameter (index : Nat) : String :=
  "family_" ++ Number.writeNat index

/-- One association row of the entity has the tag. -/
def carriesText (schema : Schema) (id : TagId) : String :=
  "SUM(CASE WHEN et." ++ schema.association.tagColumn ++ " = " ++ id.text ++
    " THEN 1 ELSE 0 END) > 0"

/-- Some association of the entity leads to a tag with the key. -/
def carriesFamilyText (schema : Schema) (index : Nat) : String :=
  let association := schema.association
  "EXISTS (SELECT 1 FROM " ++ association.table ++ " fet INNER JOIN " ++ schema.tags.table ++
    " ft ON ft.id = fet." ++ association.tagColumn ++ " WHERE fet." ++
    association.entityColumn ++ " = e." ++ schema.entity.idColumn ++ " AND ft.key = $" ++
    familyParameter index ++ ")"

def Atom.text (schema : Schema) : Atom → String
  | .always => "1=1"
  | .carries id => carriesText schema id
  | .carriesFamily index => carriesFamilyText schema index

/-- Both kinds of pairs stand in parentheses, and so does whatever is negated. -/
def Predicate.text (schema : Schema) : Predicate → String
  | .leaf atom => atom.text schema
  | .and left right => "(" ++ text schema left ++ " AND " ++ text schema right ++ ")"
  | .or left right => "(" ++ text schema left ++ " OR " ++ text schema right ++ ")"
  | .not inner => "NOT (" ++ text schema inner ++ ")"

end TagQuery
