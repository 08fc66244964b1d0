/-!
What a document in JSON or TOML says, as far as the readers of this library ask.
-/

namespace TagQuery

inductive Data where
  | null
  | integer (value : Int)
  /-- A literal whose value nothing here depends on: a truth value, a fraction, a date. -/
  | other
  /-- A text, or no content when its escapes do not make up characters. -/
  | text (content : Option String)
  | list (items : List Data)
  | record (fields : List (Option String × Data))
deriving Inhabited

end TagQuery
