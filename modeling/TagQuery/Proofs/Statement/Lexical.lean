import Mathlib.Data.List.Basic
import Mathlib.Data.List.TakeWhile
import TagQuery.Proofs.Action.Outcome
import TagQuery.Proofs.List.Distinct
import TagQuery.Proofs.Statement.Scan
import TagQuery.Proofs.Text.Bytes

/-! Binding as a reading of the bytes of the text, place by place. Whether a slot begins at a
place is decided by the bytes before it and the byte after it, without a scan. -/

namespace TagQuery.Lexical

def dollar : UInt8 := '$'.toUInt8

def quote : UInt8 := '\''.toUInt8

def isStart (byte : UInt8) : Bool := Text.isIdentifierStart (Char.ofUInt8 byte)

def isRest (byte : UInt8) : Bool := Text.isIdentifierRest (Char.ofUInt8 byte)

variable (text : List UInt8)

/-- An odd number of quotes stands before a place in a literal. -/
def isQuotedAt (place : Nat) : Bool := (text.take place).count quote % 2 == 1

/-- A slot is a dollar sign outside of literals that an ASCII letter or underscore follows. -/
def isSlotAt (place : Nat) : Bool :=
  text[place]? == some dollar && !isQuotedAt text place && text[place + 1]?.any isStart

/-- The bytes of the name of a slot: as many as letters, digits and underscores follow. -/
def nameBytes (place : Nat) : List UInt8 := (text.drop (place + 1)).takeWhile isRest

def nameAt (place : Nat) : String := String.ofList ((nameBytes text place).map Char.ofUInt8)

/-- Some slot has a byte of its name at a place. -/
def isInName (place : Nat) : Bool :=
  (List.range place).any fun start =>
    isSlotAt text start && decide (place ≤ start + (nameBytes text start).length)

/-- A part of text that is bound as a whole. -/
inductive Piece where
  | byte (value : UInt8)
  | slot (name : String)
deriving DecidableEq, Repr

/-- The piece that begins at a place, unless the place is inside of a slot. -/
def pieceAt? (place : Nat) : Option Piece :=
  if isSlotAt text place then some (.slot (nameAt text place))
  else if isInName text place then none
  else text[place]?.map .byte

def piecesFrom (place : Nat) : List Piece :=
  (List.range' place (text.length - place)).filterMap (pieceAt? text)

def pieces : List Piece := (List.range text.length).filterMap (pieceAt? text)

def Piece.name? : Piece → Option String
  | .byte _ => none
  | .slot name => some name

/-- The names of the slots from left to right. -/
def slotNames : List String :=
  ((List.range text.length).filter (isSlotAt text)).map (nameAt text)

/-- The distinct names of the slots in the order of their first slots. -/
def names : List String := (slotNames text).eraseDups

/-- The bytes of a piece in bound text, where a slot has the rank of its name among `order`. -/
def Piece.bound (dialect : Dialect) (order : List String) : Piece → List UInt8
  | .byte value => [value]
  | .slot name => Text.bytes (dialect.placeholder (order.idxOf name + 1))

/-- Text with its slots replaced and all other bytes kept. -/
def bound (dialect : Dialect) : List UInt8 :=
  (pieces text).flatMap (Piece.bound dialect (names text))

variable {text} {place : Nat} {quoted : Bool} {byte : UInt8} {rest : List UInt8}

/-- A place between two pieces, with what it is that stands before and after it. -/
structure Between (text : List UInt8) (place : Nat) (quoted : Bool) (rest : List UInt8) : Prop where
  drop_eq : text.drop place = rest
  isQuotedAt_eq : isQuotedAt text place = quoted
  not_isInName : isInName text place = false

theorem between_start (text : List UInt8) : Between text 0 false text :=
  ⟨rfl, by simp [isQuotedAt], by simp [isInName]⟩

private theorem getElem?_of_drop (dropped : text.drop place = byte :: rest) :
    text[place]? = some byte := by
  rw [← Nat.add_zero place, ← List.getElem?_drop, dropped]
  rfl

private theorem drop_succ_of_drop (dropped : text.drop place = byte :: rest) :
    text.drop (place + 1) = rest := by
  rw [← List.drop_drop, dropped]
  rfl

private theorem piecesFrom_cons (dropped : text.drop place = byte :: rest) :
    piecesFrom text place = (pieceAt? text place).toList ++ piecesFrom text (place + 1) := by
  have inside : text.length - place = (text.length - (place + 1)) + 1 := by
    have length := congrArg List.length dropped
    simp only [List.length_drop, List.length_cons] at length
    omega
  rw [piecesFrom, inside, List.range'_succ, List.filterMap_cons, piecesFrom]
  cases pieceAt? text place <;> rfl

private theorem piecesFrom_nil (dropped : text.drop place = []) : piecesFrom text place = [] := by
  rw [piecesFrom, Nat.sub_eq_zero_of_le (List.drop_eq_nil_iff.mp dropped)]
  rfl

private theorem isQuotedAt_succ (dropped : text.drop place = byte :: rest) :
    isQuotedAt text (place + 1) =
      if byte = quote then !isQuotedAt text place else isQuotedAt text place := by
  have taken : text.take (place + 1) = text.take place ++ [byte] := by
    rw [List.take_add_one, getElem?_of_drop dropped]
    rfl
  rw [isQuotedAt, taken, List.count_append, List.count_singleton, isQuotedAt]
  by_cases same : byte = quote
  · rw [if_pos same, if_pos (beq_iff_eq.mpr same)]
    rcases Nat.mod_two_eq_zero_or_one ((text.take place).count quote) with even | odd
    · simp [Nat.add_mod, even]
    · simp [Nat.add_mod, odd]
  · rw [if_neg same, if_neg (by simpa using same), Nat.add_zero]

private theorem not_isInName_iff : isInName text place = false ↔
    ∀ start < place, isSlotAt text start → start + (nameBytes text start).length < place := by
  simp [isInName]

private theorem Between.pieceAt?_eq (between : Between text place quoted (byte :: rest))
    (free : isSlotAt text place = false) : pieceAt? text place = some (.byte byte) := by
  rw [pieceAt?, if_neg (by simp [free]), if_neg (by simp [between.not_isInName]),
    getElem?_of_drop between.drop_eq]
  rfl

/-- A byte that begins no slot is a piece of its own. -/
theorem Between.plain (between : Between text place quoted (byte :: rest))
    (free : isSlotAt text place = false) :
    Between text (place + 1) (if byte = quote then !quoted else quoted) rest ∧
      piecesFrom text place = .byte byte :: piecesFrom text (place + 1) := by
  refine ⟨⟨drop_succ_of_drop between.drop_eq, ?_, ?_⟩, ?_⟩
  · rw [isQuotedAt_succ between.drop_eq, between.isQuotedAt_eq]
  · refine not_isInName_iff.mpr fun start before slot => ?_
    rcases Nat.lt_succ_iff_lt_or_eq.mp before with earlier | rfl
    · have ends := not_isInName_iff.mp between.not_isInName start earlier slot
      omega
    · simp [free] at slot
  · rw [piecesFrom_cons between.drop_eq, between.pieceAt?_eq free]
    rfl

private theorem isRest_of_mem_nameBytes (member : byte ∈ nameBytes text place) : isRest byte :=
  List.all_eq_true.mp List.all_takeWhile _ member

private theorem nameBytes_append (text : List UInt8) (place : Nat) :
    nameBytes text place ++ (text.drop (place + 1)).dropWhile isRest = text.drop (place + 1) :=
  List.takeWhile_append_dropWhile

/-- The places of a name begin no slot. -/
private theorem not_isSlotAt_name {inside : Nat} (after : place < inside)
    (within : inside ≤ place + (nameBytes text place).length) : isSlotAt text inside = false := by
  obtain ⟨offset, rfl⟩ : ∃ offset, inside = place + 1 + offset := ⟨inside - (place + 1), by omega⟩
  have short : offset < (nameBytes text place).length := by omega
  have named : text[place + 1 + offset]? = some (nameBytes text place)[offset] := by
    rw [← List.getElem?_drop, ← nameBytes_append, List.getElem?_append_left short]
    exact List.getElem?_eq_getElem short
  have different : (nameBytes text place)[offset] ≠ dollar := by
    intro same
    have rest := isRest_of_mem_nameBytes (List.getElem_mem short)
    rw [same] at rest
    exact absurd rest (by decide)
  simp [isSlotAt, named, different]

private theorem pieceAt?_name (slot : isSlotAt text place) {inside : Nat} (after : place < inside)
    (within : inside ≤ place + (nameBytes text place).length) : pieceAt? text inside = none := by
  have covered : isInName text inside := by
    refine List.any_eq_true.mpr ⟨place, List.mem_range.mpr after, ?_⟩
    rw [slot, Bool.true_and]
    exact decide_eq_true within
  rw [pieceAt?, if_neg (by simp [not_isSlotAt_name after within]), if_pos covered]

/-- A slot is one piece, and its name is over before the next one. -/
theorem Between.slot (between : Between text place false (dollar :: rest))
    (start : rest.head?.any isStart) :
    Between text (place + 1 + (rest.takeWhile isRest).length) false (rest.dropWhile isRest) ∧
      piecesFrom text place =
        .slot (String.ofList ((rest.takeWhile isRest).map Char.ofUInt8)) ::
          piecesFrom text (place + 1 + (rest.takeWhile isRest).length) := by
  have dropped := drop_succ_of_drop between.drop_eq
  have slot : isSlotAt text place := by
    have next : text[place + 1]? = rest.head? := by
      rw [← dropped, List.head?_drop]
    simp [isSlotAt, getElem?_of_drop between.drop_eq, between.isQuotedAt_eq, next, start]
  have name : nameBytes text place = rest.takeWhile isRest := by rw [nameBytes, dropped]
  have parts : nameBytes text place ++ rest.dropWhile isRest = rest := by
    rw [name, List.takeWhile_append_dropWhile]
  rw [← name]
  refine ⟨⟨?_, ?_, ?_⟩, ?_⟩
  · rw [← List.drop_drop, dropped, ← parts, List.drop_left, parts]
  · have unquoted : (nameBytes text place).count quote = 0 := by
      refine List.count_eq_zero.mpr fun member => ?_
      exact absurd (isRest_of_mem_nameBytes member) (by decide)
    have taken : text.take (place + 1 + (nameBytes text place).length) =
        text.take place ++ [dollar] ++ nameBytes text place := by
      have run : rest.take (nameBytes text place).length = nameBytes text place := by
        nth_rewrite 1 [← parts]
        exact List.take_left
      rw [List.take_add, dropped, run, List.take_add_one, getElem?_of_drop between.drop_eq]
      rfl
    have before := between.isQuotedAt_eq
    rw [isQuotedAt, taken, List.count_append, unquoted, List.count_append]
    exact before
  · refine not_isInName_iff.mpr fun begin before slot' => ?_
    rcases Nat.lt_trichotomy begin place with earlier | rfl | later
    · have ends := not_isInName_iff.mp between.not_isInName begin earlier slot'
      omega
    · omega
    · have within : begin ≤ place + (nameBytes text place).length := by omega
      simp [not_isSlotAt_name later within] at slot'
  · have long : text.length - (place + 1) = (nameBytes text place).length +
        (text.length - (place + 1 + (nameBytes text place).length)) := by
      have length := congrArg List.length (nameBytes_append text place)
      simp only [List.length_append, List.length_drop] at length
      omega
    have silent : (List.range' (place + 1) (nameBytes text place).length).filterMap
        (pieceAt? text) = [] := by
      refine List.filterMap_eq_nil_iff.mpr fun inside member => ?_
      obtain ⟨after, within⟩ := List.mem_range'_1.mp member
      exact pieceAt?_name slot (by omega) (by omega)
    rw [piecesFrom_cons between.drop_eq, pieceAt?, if_pos slot, piecesFrom, long,
      ← List.range'_append_1, List.filterMap_append, silent]
    rfl

private theorem not_isSlotAt_of_ne (dropped : text.drop place = byte :: rest)
    (visible : byte ≠ dollar) : isSlotAt text place = false := by
  simp [isSlotAt, getElem?_of_drop dropped, visible]

private theorem Between.not_isSlotAt (between : Between text place quoted (byte :: rest))
    (free : quoted = true ∨ rest.head?.any isStart = false) : isSlotAt text place = false := by
  have next : text[place + 1]? = rest.head? := by
    rw [← drop_succ_of_drop between.drop_eq, List.head?_drop]
  rcases free with inside | unnamed
  · simp [isSlotAt, between.isQuotedAt_eq, inside]
  · simp [isSlotAt, next, unnamed]

/-- Bytes that are neither quotes nor dollar signs are pieces of their own. -/
private theorem Between.run {front : List UInt8}
    (between : Between text place quoted (front ++ rest))
    (usual : ∀ byte ∈ front, byte ≠ quote ∧ byte ≠ dollar) :
    Between text (place + front.length) quoted rest ∧
      piecesFrom text place = front.map .byte ++ piecesFrom text (place + front.length) := by
  induction front generalizing place with
  | nil => exact ⟨between, rfl⟩
  | cons first front ih =>
    obtain ⟨visible, plain⟩ := usual first List.mem_cons_self
    obtain ⟨next, head⟩ := between.plain (not_isSlotAt_of_ne between.drop_eq plain)
    rw [if_neg visible] at next
    have tail := ih next fun byte member => usual byte (List.mem_cons_of_mem _ member)
    rw [Nat.add_right_comm, Nat.add_assoc] at tail
    rw [List.length_cons, head, tail.2]
    exact ⟨tail.1, rfl⟩

private theorem isAscii_of_isIdentifierStart (character : Char)
    (start : Text.isIdentifierStart character) : Text.isAscii character :=
  Text.isAscii_of_isIdentifierRest character (Text.isIdentifierRest_of_isIdentifierStart start)

def Piece.ofLexeme : Lexeme → List Piece
  | .plain character => (String.utf8EncodeChar character).map .byte
  | .slot name => [.slot (String.ofList name)]

/-- From a place between two pieces on, a scan finds the pieces of the text. -/
theorem Between.scan {characters : List Char}
    (between : Between text place quoted (characters.flatMap String.utf8EncodeChar)) :
    (Lexeme.scan quoted characters).flatMap Piece.ofLexeme = piecesFrom text place := by
  fun_induction Lexeme.scan quoted characters generalizing place with
  | case1 quoted => exact (piecesFrom_nil between.drop_eq).symm
  | case2 quoted rest ih =>
    obtain ⟨next, head⟩ := between.plain (not_isSlotAt_of_ne between.drop_eq (by decide))
    rw [head, ← ih next]
    rfl
  | case3 quoted first rest slot ih =>
    obtain ⟨outside, start⟩ : quoted = false ∧ Text.isIdentifierStart first := by
      simpa using slot
    subst outside
    have named := Text.isIdentifierRest_of_isIdentifierStart start
    have slot' : Between text place false
        (dollar :: (first :: rest).flatMap String.utf8EncodeChar) := between
    have opens := Text.any_head?_bytes isAscii_of_isIdentifierStart (first :: rest)
    obtain ⟨name, after⟩ := Text.span_bytes Text.isAscii_of_isIdentifierRest (first :: rest)
    rw [List.takeWhile_cons_of_pos named] at name
    rw [List.dropWhile_cons_of_pos named] at after
    obtain ⟨next, head⟩ := slot'.slot (opens.trans start)
    have later := ih (after ▸ next)
    rw [head, ← later]
    exact congrArg (fun characters => Piece.slot (String.ofList characters) :: _) name.symm
  | case4 quoted first rest plain ih =>
    have opens := Text.any_head?_bytes isAscii_of_isIdentifierStart (first :: rest)
    have free : quoted = true ∨ Text.isIdentifierStart first = false := by
      cases quoted with
      | true => exact .inl rfl
      | false => exact .inr (by simpa using plain)
    obtain ⟨next, head⟩ := between.plain (between.not_isSlotAt (free.imp_right opens.trans))
    rw [head, ← ih next]
    rfl
  | case5 quoted character rest visible other ih =>
    by_cases sign : character = '$'
    · subst sign
      have last : rest = [] := by
        cases rest with
        | nil => rfl
        | cons second rest => exact absurd rfl (other second rest rfl)
      subst last
      obtain ⟨next, head⟩ := between.plain (between.not_isSlotAt (.inr rfl))
      rw [head, ← ih next]
      rfl
    · have usual : ∀ byte ∈ String.utf8EncodeChar character, byte ≠ quote ∧ byte ≠ dollar := by
        intro byte member
        constructor
        · rintro rfl
          exact visible (Text.eq_of_mem_utf8EncodeChar rfl member rfl)
        · rintro rfl
          exact sign (Text.eq_of_mem_utf8EncodeChar rfl member rfl)
      obtain ⟨next, head⟩ := Between.run between usual
      rw [head, ← ih next]
      rfl

theorem filterMap_name?_pieces (text : List UInt8) :
    (pieces text).filterMap Piece.name? = slotNames text := by
  rw [slotNames, ← List.filterMap_eq_map, List.filterMap_filter, pieces, List.filterMap_filterMap]
  refine congrArg (List.filterMap · _) (funext fun place => ?_)
  by_cases slot : isSlotAt text place
  · simp [pieceAt?, slot, Piece.name?]
  · rw [if_neg slot, pieceAt?, if_neg slot]
    split
    · rfl
    · cases text[place]? <;> rfl

private theorem pieces_scan (sql : String) :
    (Lexeme.scan false sql.toList).flatMap Piece.ofLexeme = pieces (Text.bytes sql) := by
  have start := between_start (Text.bytes sql)
  rw [Text.bytes_eq] at start ⊢
  rw [start.scan, piecesFrom, pieces, List.range_eq_range', Nat.sub_zero]

/-- A scan finds the names of the slots. -/
private theorem names_scan (sql : String) :
    Lexeme.names (Lexeme.scan false sql.toList) = names (Text.bytes sql) := by
  have named : (Lexeme.scan false sql.toList).filterMap Lexeme.name? =
      slotNames (Text.bytes sql) := by
    rw [← filterMap_name?_pieces, ← pieces_scan, List.filterMap_flatMap,
      List.filterMap_eq_flatMap_toList]
    refine congrArg (List.flatMap · _) (funext fun lexeme => ?_)
    cases lexeme with
    | plain character => simp [Lexeme.name?, Piece.ofLexeme, Piece.name?]
    | slot name => rfl
  rw [Lexeme.names, named, names]

private theorem bytes_bound (dialect : Dialect) (order : List String) (lexemes : List Lexeme) :
    Text.bytes (String.ofList (lexemes.flatMap (Lexeme.bound dialect order))) =
      (lexemes.flatMap Piece.ofLexeme).flatMap (Piece.bound dialect order) := by
  rw [Text.bytes_ofList, List.flatMap_assoc, List.flatMap_assoc]
  refine congrArg (List.flatMap · _) (funext fun lexeme => ?_)
  cases lexeme with
  | plain character => simp [Lexeme.bound, Piece.ofLexeme, Piece.bound, List.flatMap_map]
  | slot name => simp [Lexeme.bound, Piece.ofLexeme, Piece.bound, Text.bytes_eq]

private theorem require_ok_iff {params : Params} {name : String} {value : Value} :
    params.require name = .ok value ↔ params.get? name = some value := by
  unfold Params.require
  cases params.get? name with
  | none => exact ⟨nofun, nofun⟩
  | some found => exact ⟨fun same => congrArg some (Except.ok.inj same),
      fun same => congrArg Except.ok (Option.some.inj same)⟩

theorem mapM_require_ok_iff {params : Params} {order : List String} {values : List Value} :
    order.mapM params.require = .ok values ↔ values.map some = order.map params.get? := by
  rw [Outcome.mapM_ok_iff, eq_comm, ← List.forall₂_eq_eq_eq, List.forall₂_map_left_iff,
    List.forall₂_map_right_iff]
  simp only [require_ok_iff]

/-- The leftmost name without a parameter is reported. -/
private theorem mapM_require_error_iff {params : Params} {order : List String}
    {fault : UnboundParameter} : order.mapM params.require = .error fault ↔
      order.find? (fun name => (params.get? name).isNone) = some fault.name := by
  induction order with
  | nil =>
    constructor
    · intro failed
      cases failed
    · intro found
      cases found
  | cons name rest ih =>
    rw [List.mapM_cons, Params.require]
    cases found : params.get? name with
    | none =>
      rw [List.find?_cons_of_pos (by simp [found])]
      constructor
      · intro failed
        cases failed
        rfl
      · intro same
        cases same
        rfl
    | some value =>
      rw [List.find?_cons_of_neg (by simp [found]), ← ih]
      change (rest.mapM params.require >>= fun values => Except.ok (value :: values)) = _ ↔ _
      cases rest.mapM params.require with
      | error other => exact Iff.rfl
      | ok values =>
        constructor
        · intro failed
          cases failed
        · intro failed
          cases failed

private theorem bindText_eq (dialect : Dialect) (params : Params) (sql : String) :
    bindText dialect params sql =
      ((names (Text.bytes sql)).mapM params.require).map fun values =>
        { sql := String.ofList ((Lexeme.scan false sql.toList).flatMap
            (Lexeme.bound dialect (names (Text.bytes sql)))), values } := by
  rw [bindText, names_scan]
  cases (names (Text.bytes sql)).mapM params.require <;> rfl

/-- The first distinct name of some kind is that of the leftmost such slot. -/
private theorem names_find?_iff {text : List UInt8} {lacks : String → Bool} {name : String} :
    (names text).find? lacks = some name ↔
      ∃ place, isSlotAt text place ∧ nameAt text place = name ∧ lacks name ∧
        ∀ earlier < place, isSlotAt text earlier → lacks (nameAt text earlier) = false := by
  rw [names, find?_eraseDups, slotNames, List.find?_map, List.find?_filter, Option.map_eq_some_iff]
  simp only [List.find?_range_eq_some, Function.comp_apply, decide_eq_true_eq, Bool.not_eq_true',
    decide_eq_false_iff_not, not_and, Bool.not_eq_true]
  constructor
  · rintro ⟨place, ⟨⟨slot, lacking⟩, _, before⟩, rfl⟩
    exact ⟨place, slot, rfl, lacking, before⟩
  · rintro ⟨place, slot, rfl, lacking, before⟩
    have inside : place < text.length := by
      by_contra outside
      simp [isSlotAt, List.getElem?_eq_none_iff.mpr (Nat.le_of_not_lt outside)] at slot
    exact ⟨place, ⟨⟨slot, lacking⟩, List.mem_range.mpr inside, before⟩, rfl⟩

/-- Binding fails for the leftmost slot without a parameter. Where there is none, it puts
positions for slots, keeps all other bytes, and gives the values of the names in the order of
the positions. Other parameters, and the order of all of them, do not matter. -/
theorem bindText_reads_bytes (dialect : Dialect) (params : Params) (sql : String) :
    (∀ fault, bindText dialect params sql = .error fault ↔
      ∃ place, isSlotAt (Text.bytes sql) place ∧ nameAt (Text.bytes sql) place = fault.name ∧
        params.get? fault.name = none ∧
        ∀ earlier < place, isSlotAt (Text.bytes sql) earlier →
          params.get? (nameAt (Text.bytes sql) earlier) ≠ none) ∧
    (∀ statement, bindText dialect params sql = .ok statement ↔
      Text.bytes statement.sql = bound (Text.bytes sql) dialect ∧
        statement.values.map some = (names (Text.bytes sql)).map params.get?) ∧
    ∀ others : Params,
      (∀ name ∈ names (Text.bytes sql), params.get? name = others.get? name) →
        bindText dialect params sql = bindText dialect others sql := by
  refine ⟨?_, ?_, ?_⟩
  · intro fault
    rw [bindText_eq, Outcome.map_error_iff, mapM_require_error_iff, names_find?_iff]
    simp only [Option.isNone_iff_eq_none, Option.isNone_eq_false_iff, Option.isSome_iff_ne_none]
  · intro statement
    have encoded := bytes_bound dialect (names (Text.bytes sql)) (Lexeme.scan false sql.toList)
    rw [pieces_scan] at encoded
    rw [bindText_eq, bound, ← encoded, ← mapM_require_ok_iff]
    constructor
    · intro passed
      cases read : (names (Text.bytes sql)).mapM params.require with
      | error fault =>
        rw [read] at passed
        cases passed
      | ok values =>
        rw [read] at passed
        cases passed
        exact ⟨rfl, rfl⟩
    · rintro ⟨same, read⟩
      rw [read, ← Text.bytes_injective same]
      rfl
  · intro others agree
    have read : (names (Text.bytes sql)).mapM params.require =
        (names (Text.bytes sql)).mapM others.require := by
      apply Outcome.mapM_congr
      intro name member
      rw [Params.require, Params.require, agree name member]
    rw [bindText_eq, bindText_eq, read]

/-- Two maps of parameters, one with an entry more and in another order. -/
def sampleParams : Params := ⟨[("a", .integer 1), ("ab", .text "two")]⟩

def reorderedParams : Params := ⟨[("ab", .text "two"), ("x", .null), ("a", .integer 1)]⟩

theorem bindText_reads_bytes_sample :
    (∀ name ∈ names (Text.bytes "é '$x'''$ab$a-$ab$1"),
      sampleParams.get? name = reorderedParams.get? name) ∧
    bindText .sqlite sampleParams "é '$x'''$ab$a-$ab$1" =
      bindText .sqlite reorderedParams "é '$x'''$ab$a-$ab$1" ∧
    bindText .sqlite reorderedParams "é '$x'''$ab$a-$ab$1" =
      .ok ⟨"é '$x'''?1?2-?1$1", [.text "two", .integer 1]⟩ := by
  have agree : ∀ name ∈ names (Text.bytes "é '$x'''$ab$a-$ab$1"),
      sampleParams.get? name = reorderedParams.get? name := by
    decide +kernel
  refine ⟨agree, (bindText_reads_bytes .sqlite sampleParams _).2.2 reorderedParams agree, ?_⟩
  exact ((bindText_reads_bytes .sqlite reorderedParams _).2.1 _).mpr (by decide +kernel)

end TagQuery.Lexical
