import TagQuery.Proofs.Text.Names
import TagQuery.Statement.Binding

/-! Scanning text piece by piece. A piece that closes its literals is scanned as it is
alone, unless a slot at its end would go on in the next piece. -/

namespace TagQuery.Lexeme

/-- Whether text leaves a scanner inside a literal. -/
def quotedAfter (quoted : Bool) : List Char → Bool
  | [] => quoted
  | character :: rest => quotedAfter (if character = '\'' then !quoted else quoted) rest

/-- A character that a slot may have. -/
def isSlotCharacter (character : Char) : Bool :=
  Text.isIdentifierRest character || character == '$'

@[simp] theorem quotedAfter_append (quoted : Bool) (left right : List Char) :
    quotedAfter quoted (left ++ right) = quotedAfter (quotedAfter quoted left) right := by
  induction left generalizing quoted with
  | nil => rfl
  | cons first rest ih => simp [quotedAfter, ih]

theorem quotedAfter_of_no_quote {quoted : Bool} {text : List Char} (plain : '\'' ∉ text) :
    quotedAfter quoted text = quoted := by
  induction text with
  | nil => rfl
  | cons first rest ih =>
    simp only [List.mem_cons, not_or] at plain
    simp [quotedAfter, Ne.symm plain.1, ih plain.2]

theorem ne_quote_of_isIdentifierRest {character : Char} (name : Text.isIdentifierRest character) :
    character ≠ '\'' := by
  rintro rfl
  exact absurd name (by decide)

theorem scan_plain {character : Char} (visible : character ≠ '\'') (dollar : character ≠ '$')
    (quoted : Bool) (rest : List Char) :
    scan quoted (character :: rest) = .plain character :: scan quoted rest := by
  rw [scan]
  · exact visible
  · exact fun _ _ same _ => dollar same

/-- Without dollar signs all text is plain, literals or not. -/
theorem scan_of_no_dollar {text : List Char} (free : '$' ∉ text) (quoted : Bool) :
    scan quoted text = text.map .plain := by
  induction text generalizing quoted with
  | nil => simp [scan]
  | cons head rest ih =>
    simp only [List.mem_cons, not_or] at free
    by_cases quote : head = '\''
    · subst quote
      rw [scan, ih free.2, List.map_cons]
    · rw [scan_plain quote (Ne.symm free.1), ih free.2, List.map_cons]

/-- A dollar sign that no name follows stands for itself. -/
theorem scan_dollar {rest : List Char} (free : rest.head?.any Text.isIdentifierStart = false)
    (quoted : Bool) : scan quoted ('$' :: rest) = .plain '$' :: scan quoted rest := by
  cases rest with
  | nil => simp [scan]
  | cons first rest =>
    have name : Text.isIdentifierStart first = false := by simpa using free
    rw [scan, if_neg (by simp [name])]

theorem scan_slot {first : Char} (start : Text.isIdentifierStart first) (rest : List Char) :
    scan false ('$' :: first :: rest) =
      .slot (first :: rest.takeWhile Text.isIdentifierRest) ::
        scan false (rest.dropWhile Text.isIdentifierRest) := by
  rw [scan, if_pos (by simp [start])]

theorem takeWhile_no_quote (text : List Char) :
    '\'' ∉ text.takeWhile Text.isIdentifierRest := by
  intro member
  have name :=
    List.all_eq_true.mp (List.all_takeWhile (p := Text.isIdentifierRest) (l := text)) _ member
  exact absurd name (by decide)

/-- A run is not longer for what comes after it, unless it was cut short. -/
private theorem span_append {holds : Char → Bool} {left right : List Char}
    (boundary : left.all holds → right.head?.any holds = false) :
    (left ++ right).takeWhile holds = left.takeWhile holds ∧
      (left ++ right).dropWhile holds = left.dropWhile holds ++ right := by
  induction left with
  | nil =>
    cases right with
    | nil => exact ⟨rfl, rfl⟩
    | cons first rest => simp_all
  | cons first rest ih =>
    by_cases held : holds first
    · have later := ih (by simpa [held] using boundary)
      simp [held, later]
    · simp [held]

/-- What is left of a run ends as the text does. -/
private theorem getLast?_dropWhile {holds fits : Char → Bool} {text : List Char}
    (last : text.getLast?.any fits = false) : (text.dropWhile holds).getLast?.any fits = false := by
  rcases List.eq_nil_or_concat (text.dropWhile holds) with empty | ⟨init, final, shown⟩
  · simp [empty]
  · rw [← List.takeWhile_append_dropWhile (p := holds) (l := text), shown] at last
    simpa [shown] using last

/-- A name is over where its slot is. -/
theorem head?_dropWhile_isIdentifierRest (text : List Char) :
    (text.dropWhile Text.isIdentifierRest).head?.any Text.isIdentifierRest = false := by
  have stopped := List.head?_dropWhile_not Text.isIdentifierRest text
  cases shown : (text.dropWhile Text.isIdentifierRest).head? with
  | none => rfl
  | some next =>
    rw [shown] at stopped
    exact stopped

/-- Text can be cut between any two characters that are not both of one slot. -/
theorem scan_append {left right : List Char}
    (apart : left.getLast?.any isSlotCharacter = false ∨
      right.head?.any Text.isIdentifierRest = false) (quoted : Bool) :
    scan quoted (left ++ right) = scan quoted left ++ scan (quotedAfter quoted left) right := by
  fun_induction scan quoted left with
  | case1 quoted => simp [quotedAfter]
  | case2 quoted rest ih =>
    have later := ih (by cases rest <;> simp_all)
    simp [scan, quotedAfter, later]
  | case3 quoted first rest slot ih =>
    have start : Text.isIdentifierStart first := by simp_all
    have name := Text.isIdentifierRest_of_isIdentifierStart start
    have boundary : rest.all Text.isIdentifierRest →
        right.head?.any Text.isIdentifierRest = false := by
      intro whole
      refine apart.resolve_left ?_
      rcases List.eq_nil_or_concat rest with rfl | ⟨init, final, rfl⟩
      · simp [isSlotCharacter, name]
      · have final' : Text.isIdentifierRest final := by simp_all
        rw [List.concat_eq_append, ← List.cons_append, ← List.cons_append, List.getLast?_concat]
        simp [isSlotCharacter, final']
    obtain ⟨taken, dropped⟩ := span_append boundary
    have later := ih (apart.imp_left fun last => getLast?_dropWhile (by cases rest <;> simp_all))
    have closed : quotedAfter quoted ('$' :: first :: rest) =
        quotedAfter quoted (rest.dropWhile Text.isIdentifierRest) := by
      have visible := ne_quote_of_isIdentifierRest name
      calc quotedAfter quoted ('$' :: first :: rest)
        _ = quotedAfter quoted rest := by
          rw [quotedAfter, if_neg (by decide), quotedAfter, if_neg visible]
        _ = quotedAfter quoted (rest.takeWhile Text.isIdentifierRest ++
              rest.dropWhile Text.isIdentifierRest) := by
          rw [List.takeWhile_append_dropWhile]
        _ = quotedAfter quoted (rest.dropWhile Text.isIdentifierRest) := by
          rw [quotedAfter_append, quotedAfter_of_no_quote (takeWhile_no_quote rest)]
    rw [List.cons_append, List.cons_append, scan, if_pos slot, taken, dropped, later, closed]
    rfl
  | case4 quoted first rest plain ih =>
    have later := ih (by simpa using apart)
    have test : ¬ (!quoted && Text.isIdentifierStart first) = true := plain
    simp only [List.cons_append] at later ⊢
    rw [scan, if_neg test, later]
    simp [quotedAfter]
  | case5 quoted character rest visible other ih =>
    have later := ih (by cases rest <;> simp_all)
    have closed : quotedAfter quoted (character :: rest) = quotedAfter quoted rest := by
      rw [quotedAfter, if_neg visible]
    by_cases dollar : character = '$'
    · subst dollar
      cases rest with
      | nil =>
        have free : right.head?.any Text.isIdentifierStart = false := by
          have unnamed := apart.resolve_left (by decide)
          cases right with
          | nil => rfl
          | cons next more =>
            have rest : ¬ Text.isIdentifierRest next := by simpa using unnamed
            simpa using mt Text.isIdentifierRest_of_isIdentifierStart rest
        rw [List.singleton_append, scan_dollar free]
        simp [scan, quotedAfter]
      | cons second rest => exact absurd rfl (other second rest rfl)
    · rw [List.cons_append, scan_plain visible dollar, later, closed, List.cons_append]

end TagQuery.Lexeme
