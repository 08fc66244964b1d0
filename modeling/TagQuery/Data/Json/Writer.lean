import TagQuery.Number.Hexadecimal

/-!
JSON text without blanks between its parts.
-/

namespace TagQuery.Json

/-- The escape of a character by its code point, below 256. -/
def codePointEscape (character : Char) : List Char :=
  ['\\', 'u'] ++ Number.writeHex 4 character.toNat

/-- One character of a text. Only quotes, backslashes and control characters are escaped. -/
def textChar (character : Char) : List Char :=
  match character with
  | '"' => ['\\', '"']
  | '\\' => ['\\', '\\']
  | '\x08' => ['\\', 'b']
  | '\x0c' => ['\\', 'f']
  | '\n' => ['\\', 'n']
  | '\r' => ['\\', 'r']
  | '\t' => ['\\', 't']
  | other => if other.toNat < 0x20 then codePointEscape other else [other]

def text (content : String) : String :=
  String.ofList ('"' :: content.toList.flatMap textChar ++ ['"'])

def array (items : List String) : String :=
  "[" ++ ",".intercalate items ++ "]"

/-- An object whose members are written already. -/
def object (members : List (String × String)) : String :=
  "\x7b" ++ ",".intercalate (members.map fun (key, value) => text key ++ ":" ++ value) ++ "\x7d"

end TagQuery.Json
