import TagQuery.Executor.Run
import TagQuery.Proofs.Action.Outcome
import TagQuery.Proofs.List.Distinct
import TagQuery.Proofs.List.Runs
import TagQuery.Proofs.Number.Decimal
import TagQuery.Proofs.OrderedMap.Lookup
import TagQuery.Proofs.Statement.Fragment

/-! The positional parameters of bound text, and when text binds all the parameters given
for it in their order. -/

namespace TagQuery

/-- The character before the number of a positional parameter. -/
def Dialect.mark : Dialect → Char
  | .postgres => '$'
  | .sqlite => '?'

/-- The numbers of the positional parameters outside of literals, from left to right. -/
def positions (dialect : Dialect) (quoted : Bool) : List Char → List Nat
  | [] => []
  | character :: rest =>
    if character = '\'' then positions dialect (!quoted) rest
    else if quoted = false ∧ character = dialect.mark then
      (Number.readDigits? (rest.takeWhile Char.isDigit)).toList ++ positions dialect quoted rest
    else positions dialect quoted rest

/-- A statement binds all of its parameters in their order: the values are theirs, and the
positions outside of literals first occur as one, two and so on up to their number. -/
def Statement.BindsInOrder (dialect : Dialect) (params : Params) (statement : Statement) : Prop :=
  ∃ bound, statement.bind dialect params = .ok bound ∧ bound.values = params.values ∧
    (positions dialect false bound.sql.toList).eraseDups =
      (List.range bound.values.length).map (· + 1)

theorem placeholder_toList (dialect : Dialect) (position : Nat) :
    (dialect.placeholder position).toList = dialect.mark :: Nat.toDigits 10 position := by
  cases dialect <;> simp [Dialect.placeholder, Dialect.placeholderMark, Dialect.mark, Number.writeNat]

/-- Digits are passed over. -/
private theorem positions_digits_append (dialect : Dialect) {digits : List Char}
    (numeral : ∀ character ∈ digits, character.isDigit) (rest : List Char) :
    positions dialect false (digits ++ rest) = positions dialect false rest := by
  induction digits with
  | nil => rfl
  | cons first more ih =>
    have digit := numeral first List.mem_cons_self
    have visible : first ≠ '\'' := by
      rintro rfl
      exact absurd digit (by decide)
    have unmarked : first ≠ dialect.mark := by
      rintro rfl
      cases dialect <;> exact absurd digit (by decide)
    rw [List.cons_append, positions, if_neg visible, if_neg (by simp [unmarked])]
    exact ih fun character member => numeral character (List.mem_cons_of_mem _ member)

/-- A placeholder is one position when no digit comes next. -/
private theorem positions_placeholder_append (dialect : Dialect) (position : Nat) {rest : List Char}
    (free : rest.head?.any Char.isDigit = false) :
    positions dialect false ((dialect.placeholder position).toList ++ rest) =
      position :: positions dialect false rest := by
  have numeral : ∀ character ∈ Nat.toDigits 10 position, character.isDigit := fun _ member =>
    Nat.isDigit_of_mem_toDigits (by decide) (by decide) member
  have taken : (Nat.toDigits 10 position ++ rest).takeWhile Char.isDigit =
      Nat.toDigits 10 position := takeWhile_append_of_stop numeral free
  have visible : dialect.mark ≠ '\'' := by cases dialect <;> decide
  rw [placeholder_toList, List.cons_append, positions, if_neg visible, if_pos ⟨rfl, rfl⟩, taken,
    Number.readDigits?_toDigits, positions_digits_append dialect numeral]
  rfl

/-- Bound text begins as the text did, or with a placeholder for a slot. -/
theorem head?_bound (dialect : Dialect) (order : List String) (quoted : Bool) (text : List Char)
    (fits : Char → Bool) (mark : fits dialect.mark = false) (dollar : fits '$' = false) :
    ((Lexeme.scan quoted text).flatMap (Lexeme.bound dialect order)).head?.any fits =
      text.head?.any fits := by
  fun_cases Lexeme.scan quoted text with
  | case1 => rfl
  | case2 => rfl
  | case3 first rest slot =>
    simp only [List.flatMap_cons, Lexeme.bound, placeholder_toList, List.cons_append]
    simp [mark, dollar]
  | case4 => rfl
  | case5 => rfl

private theorem names_plain (character : Char) (lexemes : List Lexeme) :
    (Lexeme.plain character :: lexemes).filterMap Lexeme.name? =
      lexemes.filterMap Lexeme.name? := rfl

private theorem names_slot (name : List Char) (lexemes : List Lexeme) :
    (Lexeme.slot name :: lexemes).filterMap Lexeme.name? =
      String.ofList name :: lexemes.filterMap Lexeme.name? := rfl

/-- Bound text has a position for each slot, and no others when the text marks nothing
outside of its slots. -/
theorem positions_bound (dialect : Dialect) (order : List String) {quoted : Bool}
    {text : List Char}
    (plain : ∀ character, .plain character ∈ Lexeme.scan quoted text →
      character ≠ '$' ∧ character ≠ '?') :
    positions dialect quoted ((Lexeme.scan quoted text).flatMap (Lexeme.bound dialect order)) =
      ((Lexeme.scan quoted text).filterMap Lexeme.name?).map (order.idxOf · + 1) := by
  fun_induction Lexeme.scan quoted text with
  | case1 => rfl
  | case2 quoted rest ih =>
    have later := ih fun character member => plain character (List.mem_cons_of_mem _ member)
    rw [names_plain, ← later]
    rfl
  | case3 quoted first rest slot ih =>
    have later := ih fun character member => plain character (List.mem_cons_of_mem _ member)
    have unquoted : quoted = false := by simp_all
    subst unquoted
    have stop : (rest.dropWhile Text.isIdentifierRest).head?.any Char.isDigit = false := by
      have ends := Lexeme.head?_dropWhile_isIdentifierRest rest
      cases shown : (rest.dropWhile Text.isIdentifierRest).head? with
      | none => rfl
      | some next =>
        rw [shown, Option.any_some] at ends
        simpa using mt Number.isIdentifierRest_of_isDigit (by simpa using ends)
    rw [names_slot, List.flatMap_cons, List.map_cons, ← later]
    have begins := head?_bound dialect order false (rest.dropWhile Text.isIdentifierRest)
      Char.isDigit (by cases dialect <;> rfl) rfl
    exact positions_placeholder_append dialect _ (begins.trans stop)
  | case4 quoted first rest unnamed ih => exact absurd rfl (plain '$' List.mem_cons_self).1
  | case5 quoted character rest visible other ih =>
    have later := ih fun character member => plain character (List.mem_cons_of_mem _ member)
    have free := plain character List.mem_cons_self
    have unmarked : character ≠ dialect.mark := by
      cases dialect
      · exact free.1
      · exact free.2
    rw [names_plain, ← later, List.flatMap_cons, Lexeme.bound, List.singleton_append, positions,
      if_neg visible, if_neg (by simp [unmarked])]

/-- The text that slots in the places of their positions make. -/
theorem Statement.map_sql_bind (dialect : Dialect) (params : Params) (statement : Statement) :
    (statement.bind dialect params).map PositionalStatement.sql =
      (let lexemes := Lexeme.scan false (statement.text dialect).toList
      ((Lexeme.names lexemes).mapM params.require).map (fun _ =>
        String.ofList (lexemes.flatMap (Lexeme.bound dialect (Lexeme.names lexemes))))).mapError
          fun unbound => .unboundParameter unbound.name := by
  unfold Statement.bind bindText
  dsimp only
  generalize (Lexeme.names (Lexeme.scan false (statement.text dialect).toList)).mapM
    params.require = values
  cases values <;> rfl

/-- Bound text is made of the lexemes that its text is scanned into. -/
theorem Statement.toList_sql_of_bind {dialect : Dialect} {params : Params} {statement : Statement}
    {bound : PositionalStatement} (binds : statement.bind dialect params = .ok bound) :
    ∃ order, bound.sql.toList =
      (Lexeme.scan false (statement.text dialect).toList).flatMap (Lexeme.bound dialect order) := by
  have texts := map_sql_bind dialect params statement
  rw [binds] at texts
  dsimp only at texts
  generalize (Lexeme.names (Lexeme.scan false (statement.text dialect).toList)).mapM
    params.require = values at texts
  cases values with
  | error unbound => cases texts
  | ok _ =>
    have sql := Except.ok.inj texts
    exact ⟨_, by rw [sql, String.toList_ofList]⟩

/-- Given parameters are all there, in their order. -/
theorem Params.mapM_require_keys {params : Params} (distinct : params.keys.Nodup) :
    params.keys.mapM params.require = .ok params.values := by
  rw [OrderedMap.keys, List.mapM_map]
  apply Outcome.mapM_ok_of_forall
  intro entry member
  rw [Function.comp_apply, Params.require, OrderedMap.get?_of_mem distinct member]

/-- A statement whose slots are the names of its parameters binds them in their order. -/
theorem Statement.bindsInOrder_of_fragment {allowed : Char → Bool}
    (unmarked : ∀ character, allowed character → character ≠ '$' ∧ character ≠ '?')
    {dialect : Dialect} {statement : Statement} {params : Params} {names : List String}
    (fragment : Fragment allowed (statement.text dialect) names)
    (keys : names.eraseDups = params.keys) : statement.BindsInOrder dialect params := by
  have distinct : params.keys.Nodup := keys ▸ nodup_eraseDups names
  have order : Lexeme.names (Lexeme.scan false (statement.text dialect).toList) = params.keys := by
    rw [← keys, ← fragment.slots_eq]
    rfl
  have places := positions_bound dialect params.keys fun character member =>
    unmarked character (fragment.plain character member)
  have bound : statement.bind dialect params = .ok {
      sql := String.ofList ((Lexeme.scan false (statement.text dialect).toList).flatMap
        (Lexeme.bound dialect params.keys))
      values := params.values } := by
    rw [Statement.bind, bindText, order, Params.mapM_require_keys distinct]
    rfl
  refine ⟨_, bound, rfl, ?_⟩
  have count : params.values.length = names.eraseDups.length := by
    rw [keys]
    simp [OrderedMap.values, OrderedMap.keys]
  have successive : ((names.map (names.eraseDups.idxOf ·)).map (· + 1)).eraseDups =
      (List.range names.eraseDups.length).map (· + 1) := by
    rw [eraseDups_map fun _ _ _ _ same => Nat.succ_injective same, eraseDups_map_idxOf]
  have found : (Lexeme.scan false (statement.text dialect).toList).filterMap Lexeme.name? = names :=
    fragment.slots_eq
  rw [String.toList_ofList, places, found, count, ← successive, List.map_map, keys]
  rfl

end TagQuery
