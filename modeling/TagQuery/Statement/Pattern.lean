/-!
Patterns of the SQL `LIKE` operator with a backslash as the escape character.
-/

namespace TagQuery.Pattern

/-- The characters that a pattern does not take for themselves. -/
def isSpecial (character : Char) : Bool :=
  character == '\\' || character == '%' || character == '_'

/-- A character that matches only itself. -/
def escaped (character : Char) : List Char :=
  if isSpecial character then ['\\', character] else [character]

/-- The pattern of the texts that contain the given one. -/
def containing (text : String) : String :=
  String.ofList ('%' :: text.toList.flatMap escaped ++ ['%'])

end TagQuery.Pattern
