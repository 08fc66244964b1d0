import TagQuery.Text.GraphemeExtend
import TagQuery.Text.Unprintable

/-!
Text in double quotes for diagnostics: every character that would not show as itself
is written as an escape.
-/

namespace TagQuery.Text

/-- The escape of a character by its code point, in lower-case hexadecimal. -/
def codePointEscape (character : Char) : List Char :=
  ['\\', 'u', '\x7b'] ++ Nat.toDigits 16 character.toNat ++ ['\x7d']

/-- One character inside double quotes. A single quote needs no escape there. -/
def quotedChar (character : Char) : List Char :=
  match character with
  | '\x00' => ['\\', '0']
  | '\t' => ['\\', 't']
  | '\r' => ['\\', 'r']
  | '\n' => ['\\', 'n']
  | '"' => ['\\', '"']
  | '\\' => ['\\', '\\']
  | other =>
    if isGraphemeExtend other || isUnprintable other then codePointEscape other
    else [other]

def quoted (text : String) : String :=
  String.ofList ('"' :: text.toList.flatMap quotedChar ++ ['"'])

end TagQuery.Text
