/-!
Identifiers of SQL text: an ASCII letter or underscore, then letters, digits and
underscores. A qualified identifier is one or more of them with single dots between.
-/

namespace TagQuery.Text

/-- A first character of an identifier. -/
def isIdentifierStart (character : Char) : Bool :=
  character.isAlpha || character == '_'

/-- A later character of an identifier. -/
def isIdentifierRest (character : Char) : Bool :=
  character.isAlphanum || character == '_'

def isIdentifier : List Char → Bool
  | [] => false
  | first :: rest => isIdentifierStart first && rest.all isIdentifierRest

/-- The parts between separators; there is always at least one. -/
def splitOnChar (separator : Char) : List Char → List (List Char)
  | [] => [[]]
  | character :: rest =>
    if character = separator then [] :: splitOnChar separator rest
    else match splitOnChar separator rest with
      | [] => [[character]]
      | part :: parts => (character :: part) :: parts

/-- One or more identifiers with a dot between neighbours. -/
def isQualifiedIdentifier (name : String) : Bool :=
  (splitOnChar '.' name.toList).all isIdentifier

end TagQuery.Text
