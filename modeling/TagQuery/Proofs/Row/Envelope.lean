import Mathlib.Data.List.Forall2
import TagQuery.Proofs.Action.Outcome
import TagQuery.Row.Page

/-!
What becomes of the rows of a page, whatever their columns: each gives up the first column
of the total before the rest of it is read, and the first row that does not fit decides
what is reported.
-/

namespace TagQuery

namespace Row

/-- A row is the first value of a name and the other columns, which keep their order. -/
def Splits (row : Row) (name : String) (value : Value) (rest : Row) : Prop :=
  ∃ before after, row.columns = before ++ (name, value) :: after ∧
    rest.columns = before ++ after ∧ ∀ column ∈ before, column.1 ≠ name

/-- A row carries a total, which it keeps as a signed number, beside its other columns. -/
def Counts (row : Row) (total : UInt64) (rest : Row) : Prop :=
  ∃ count : Int64, row.Splits totalColumn (.integer count) rest ∧ count.toInt = total.toNat

/-- Why a row carries no total. -/
inductive Uncounted (row : Row) : RowFlaw → Prop
  | missing : (∀ column ∈ row.columns, column.1 ≠ totalColumn) →
    Uncounted row (.missingColumn totalColumn)
  | mistyped {value : Value} {rest : Row} : row.Splits totalColumn value rest →
    (∀ count, value ≠ .integer count) →
    Uncounted row (.typeMismatch totalColumn "integer" value.kind)
  | negative {count : Int64} {rest : Row} : row.Splits totalColumn (.integer count) rest →
    count.toInt < 0 →
    Uncounted row (.invalid totalColumn ("negative total " ++ Number.writeInt64 count))

variable {row rest : Row} {name : String} {value : Value} {total : UInt64} {flaw : RowFlaw}

private theorem withoutFirst_append {before after : List (String × Value)}
    (fresh : ∀ column ∈ before, column.1 ≠ name) :
    withoutFirst name (before ++ (name, value) :: after) = before ++ after := by
  induction before with
  | nil => simp [withoutFirst]
  | cons column before ih =>
    rw [List.forall_mem_cons] at fresh
    simp [withoutFirst, fresh.1, ih fresh.2]

theorem get?_eq_none_iff : row.get? name = none ↔ ∀ column ∈ row.columns, column.1 ≠ name := by
  simp [get?, List.lookup_eq_none_iff, bne_iff_ne, ne_comm]

/-- The first value of a name is the one that is found, and it alone is removed. -/
theorem splits_iff :
    row.Splits name value rest ↔ row.get? name = some value ∧ row.remove name = rest := by
  constructor
  · intro split
    obtain ⟨before, after, columns, others, fresh⟩ := split
    constructor
    · apply List.lookup_eq_some_iff.mpr
      exact ⟨before, after, columns, fun column member =>
        bne_iff_ne.mpr (Ne.symm (fresh column member))⟩
    · rw [remove, columns, withoutFirst_append fresh, ← others]
  · intro found
    obtain ⟨found, rfl⟩ := found
    obtain ⟨before, after, columns, fresh⟩ := List.lookup_eq_some_iff.mp found
    have apart : ∀ column ∈ before, column.1 ≠ name := by
      intro column member
      exact Ne.symm (bne_iff_ne.mp (fresh column member))
    refine ⟨before, after, columns, ?_, apart⟩
    rw [remove, columns, withoutFirst_append apart]

/-- A number that is not negative is the same one without its sign. -/
private theorem toInt_eq_toNat_toUInt64 {count : Int64} (positive : ¬ count.toInt < 0) :
    count.toInt = count.toUInt64.toNat := by
  change count.toBitVec.toInt = count.toBitVec.toNat
  change ¬ count.toBitVec.toInt < 0 at positive
  rw [BitVec.toInt_eq_toNat_cond] at positive ⊢
  omega

/-- A row carries the total that is read from it, and removing that leaves the rest. -/
theorem counts_iff :
    row.Counts total rest ↔ row.total = .ok total ∧ row.remove totalColumn = rest := by
  constructor
  · intro counts
    obtain ⟨count, split, same⟩ := counts
    obtain ⟨found, removed⟩ := splits_iff.mp split
    have positive : ¬ count.toInt < 0 := by omega
    have word : count.toUInt64 = total := by
      have words := toInt_eq_toNat_toUInt64 positive
      exact UInt64.toNat_inj.mp (by omega)
    refine ⟨?_, removed⟩
    simp [Row.total, found, positive, word]
  · intro read
    obtain ⟨counted, removed⟩ := read
    unfold Row.total at counted
    split at counted
    · cases counted
    · rename_i count found
      split at counted
      · cases counted
      · rename_i positive
        cases counted
        exact ⟨count, splits_iff.mpr ⟨found, removed⟩, toInt_eq_toNat_toUInt64 positive⟩
    · cases counted

/-- The flaw of a row without a total is that of its first column of the name, if any. -/
theorem total_error_iff : row.total = .error flaw ↔ row.Uncounted flaw := by
  constructor
  · intro failed
    unfold Row.total at failed
    split at failed
    · rename_i absent
      cases failed
      exact .missing (get?_eq_none_iff.mp absent)
    · rename_i count found
      split at failed
      · rename_i negative
        cases failed
        exact .negative (splits_iff.mpr ⟨found, rfl⟩) negative
      · cases failed
    · rename_i value other found
      cases failed
      exact .mistyped (splits_iff.mpr ⟨found, rfl⟩) other
  · intro uncounted
    cases uncounted with
    | missing absent => simp [Row.total, get?_eq_none_iff.mpr absent]
    | @mistyped value _ split other =>
      have found := (splits_iff.mp split).1
      cases value with
      | integer count => exact absurd rfl (other count)
      | _ => simp [Row.total, found]
    | negative split negative => simp [Row.total, (splits_iff.mp split).1, negative]

end Row

namespace Page

variable {α : Type} [RowShape α]

/-- A row of a total reads as an item once the total is taken off. -/
def Reads (total : UInt64) (row : Row) (item : α) : Prop :=
  ∃ rest, row.Counts total rest ∧ RowShape.ofRow rest = .ok item

/-- A page has an item for each row in their order, and the total of every one of them. -/
structure Holds (page : Page α) (rows : List Row) : Prop where
  items : List.Forall₂ (Reads page.total) rows page.items
  empty : rows = [] → page.total = 0

/-- The total that the next row has to carry, after rows that carry one. -/
def totalAfter (before : Option UInt64) (rows : List Row) (total : UInt64) : Option UInt64 :=
  if rows = [] then before else some total

/-- What is wrong with a row after rows of a total: it has no total of its own, or else not
that one, or else the rest of it does not read. -/
inductive Spoils (α : Type) [RowShape α] (before : Option UInt64) (row : Row) : RowFlaw → Prop
  | uncounted {flaw : RowFlaw} : row.Uncounted flaw → Spoils α before row flaw
  | disagrees {expected total : UInt64} {rest : Row} : before = some expected →
    row.Counts total rest → expected ≠ total →
    Spoils α before row (.invalid totalColumn ("rows disagree on total (" ++
      Number.writeNat expected.toNat ++ " vs " ++ Number.writeNat total.toNat ++ ")"))
  | unreadable {total : UInt64} {rest : Row} {flaw : RowFlaw} : row.Counts total rest →
    (∀ expected ∈ before, expected = total) →
    (RowShape.ofRow rest : Except RowFlaw α) = .error flaw → Spoils α before row flaw

variable {before : Option UInt64} {row : Row} {rows : List Row} {total : UInt64} {item : α}
  {items : List α} {final : Option UInt64} {flaw : RowFlaw}

section Step

private theorem readRow_uncounted (failed : row.total = .error flaw) :
    (readRow before row : Except RowFlaw (UInt64 × α)) = .error flaw := by
  unfold readRow
  rw [failed]
  rfl

private theorem readRow_disagreeing {expected : UInt64} (counted : row.total = .ok total)
    (apart : expected ≠ total) :
    (readRow (some expected) row : Except RowFlaw (UInt64 × α)) =
      .error (.invalid totalColumn ("rows disagree on total (" ++
        Number.writeNat expected.toNat ++ " vs " ++ Number.writeNat total.toNat ++ ")")) := by
  unfold readRow
  rw [counted]
  change (if expected ≠ total then _ else _) = _
  rw [if_pos apart]
  rfl

private theorem readRow_agreeing (counted : row.total = .ok total)
    (agrees : ∀ expected ∈ before, expected = total) :
    readRow (α := α) before row =
      (RowShape.ofRow (row.remove totalColumn)).map fun item => (total, item) := by
  unfold readRow
  rw [counted]
  cases before with
  | none =>
    cases RowShape.ofRow (α := α) (row.remove totalColumn) <;> rfl
  | some expected =>
    obtain rfl := agrees expected rfl
    change (if expected ≠ expected then _ else _) = _
    rw [if_neg (not_not_intro rfl)]
    cases RowShape.ofRow (α := α) (row.remove totalColumn) <;> rfl

/-- A row is read when it carries the total of the rows before and the rest of it reads. -/
theorem readRow_ok_iff : readRow before row = .ok (total, item) ↔
    (∀ expected ∈ before, expected = total) ∧ Reads total row item := by
  constructor
  · intro read
    cases counted : row.total with
    | error flaw =>
      rw [readRow_uncounted counted] at read
      cases read
    | ok found =>
      by_cases agrees : ∀ expected ∈ before, expected = found
      · rw [readRow_agreeing counted agrees] at read
        obtain ⟨_, shaped, same⟩ := Outcome.of_map_ok read
        cases same
        exact ⟨agrees, _, Row.counts_iff.mpr ⟨counted, rfl⟩, shaped⟩
      · push Not at agrees
        obtain ⟨expected, rfl, apart⟩ := agrees
        rw [readRow_disagreeing counted apart] at read
        cases read
  · intro fits
    obtain ⟨agrees, rest, counts, shaped⟩ := fits
    obtain ⟨counted, rfl⟩ := Row.counts_iff.mp counts
    rw [readRow_agreeing counted agrees, shaped]
    rfl

theorem readRow_error_iff :
    (readRow before row : Except RowFlaw (UInt64 × α)) = .error flaw ↔ Spoils α before row flaw := by
  constructor
  · intro failed
    cases counted : row.total with
    | error found =>
      rw [readRow_uncounted counted] at failed
      cases failed
      exact .uncounted (Row.total_error_iff.mp counted)
    | ok found =>
      have counts := Row.counts_iff.mpr ⟨counted, rfl⟩
      by_cases agrees : ∀ expected ∈ before, expected = found
      · rw [readRow_agreeing counted agrees] at failed
        exact .unreadable counts agrees (Outcome.map_error_iff.mp failed)
      · push Not at agrees
        obtain ⟨expected, rfl, apart⟩ := agrees
        rw [readRow_disagreeing counted apart] at failed
        cases failed
        exact .disagrees rfl counts apart
  · intro spoils
    cases spoils with
    | uncounted uncounted => exact readRow_uncounted (Row.total_error_iff.mpr uncounted)
    | disagrees same counts apart =>
      rw [same]
      exact readRow_disagreeing (Row.counts_iff.mp counts).1 apart
    | unreadable counts agrees failed =>
      obtain ⟨counted, rfl⟩ := Row.counts_iff.mp counts
      rw [readRow_agreeing counted agrees, failed]
      rfl

end Step

section Run

/-- Rows are read when each of them carries one total, that of the rows before if there are
any, and reads without it. -/
theorem readRows_ok_iff : readRows before rows = .ok (items, final) ↔
    ∃ total, (∀ expected ∈ before, expected = total) ∧ List.Forall₂ (Reads total) rows items ∧
      final = totalAfter before rows total := by
  induction rows generalizing before items with
  | nil =>
    constructor
    · intro read
      cases read
      exact ⟨final.getD 0, fun _ same => same ▸ rfl, .nil, rfl⟩
    · intro read
      obtain ⟨_, _, none, rfl⟩ := read
      cases none
      rfl
  | cons row rest ih =>
    have followed (total : UInt64) : totalAfter (some total) rest total = some total := ite_self _
    constructor
    · intro read
      obtain ⟨⟨total, item⟩, head, read⟩ := Outcome.of_bind_ok read
      obtain ⟨⟨others, _⟩, tail, same⟩ := Outcome.of_bind_ok read
      cases same
      obtain ⟨agrees, reads⟩ := readRow_ok_iff.mp head
      obtain ⟨_, same, read, last⟩ := ih.mp tail
      obtain rfl := same total rfl
      exact ⟨total, agrees, .cons reads read, last.trans (followed total)⟩
    · intro read
      obtain ⟨total, agrees, read, rfl⟩ := read
      cases read with
      | cons reads read =>
        have head := readRow_ok_iff.mpr ⟨agrees, reads⟩
        have tail := ih.mpr
          ⟨total, fun _ same => (Option.some.inj same).symm, read, (followed total).symm⟩
        rw [readRows, head]
        change (readRows (some total) rest >>= _) = _
        rw [tail]
        rfl

/-- Reading stops at the first row that does not fit those before it. -/
theorem readRows_error_iff :
    (readRows before rows : Except RowFlaw (List α × Option UInt64)) = .error flaw ↔
      ∃ earlier row after, ∃ items : List α, ∃ final, rows = earlier ++ row :: after ∧
        readRows before earlier = .ok (items, final) ∧ Spoils α final row flaw := by
  induction rows generalizing before with
  | nil =>
    constructor
    · intro failed
      cases failed
    · intro failed
      obtain ⟨earlier, row, after, _, _, split, _⟩ := failed
      exact absurd split.symm (List.append_ne_nil_of_right_ne_nil _ (List.cons_ne_nil _ _))
  | cons first rest ih =>
    constructor
    · intro failed
      rcases Outcome.of_bind_error failed with head | ⟨⟨total, item⟩, head, failed⟩
      · exact ⟨[], first, rest, [], before, rfl, rfl, readRow_error_iff.mp head⟩
      · rcases Outcome.of_bind_error failed with tail | ⟨_, _, failed⟩
        · obtain ⟨earlier, row, after, others, final, rfl, read, spoils⟩ := ih.mp tail
          refine ⟨first :: earlier, row, after, item :: others, final, rfl, ?_, spoils⟩
          rw [readRows, head]
          change (readRows (some total) earlier >>= _) = _
          rw [read]
          rfl
        · cases failed
    · intro failed
      obtain ⟨earlier, row, after, items, final, split, read, spoils⟩ := failed
      cases earlier with
      | nil =>
        cases split
        cases read
        rw [readRows, readRow_error_iff.mpr spoils]
        rfl
      | cons _ earlier =>
        cases split
        obtain ⟨⟨total, item⟩, head, read⟩ := Outcome.of_bind_ok read
        obtain ⟨⟨others, _⟩, tail, same⟩ := Outcome.of_bind_ok read
        cases same
        have failed := ih.mpr ⟨earlier, row, after, others, final, rfl, tail, spoils⟩
        rw [readRows, head]
        change (readRows (some total) _ >>= _) = _
        rw [failed]
        rfl

end Run

/-- The rows of a page are read from the start with its items, and with its total unless
there are none. -/
private theorem readRows_none_ok_iff : readRows none rows = .ok (items, final) ↔
    ∃ page : Page α, page.Holds rows ∧ page.items = items ∧
      final = totalAfter none rows page.total := by
  constructor
  · intro read
    obtain ⟨total, _, reads, rfl⟩ := readRows_ok_iff.mp read
    cases reads with
    | nil => exact ⟨⟨[], 0⟩, ⟨.nil, fun _ => rfl⟩, rfl, rfl⟩
    | cons head tail =>
      have holds : Page.Holds ⟨_, total⟩ (_ :: _) :=
        ⟨.cons head tail, fun none => absurd none (List.cons_ne_nil _ _)⟩
      exact ⟨_, holds, rfl, rfl⟩
  · intro made
    obtain ⟨page, holds, rfl, rfl⟩ := made
    exact readRows_ok_iff.mpr ⟨page.total, nofun, holds.items, rfl⟩

/-- Without rows the total is zero. -/
private theorem Holds.getD_totalAfter {page : Page α} (holds : page.Holds rows) :
    (totalAfter none rows page.total).getD 0 = page.total := by
  unfold totalAfter
  by_cases none : rows = []
  · rw [if_pos none, holds.empty none]
    rfl
  · rw [if_neg none]
    rfl

theorem ofRows_ok_iff {page : Page α} : ofRows rows = .ok page ↔ page.Holds rows := by
  constructor
  · intro made
    obtain ⟨_, read, same⟩ := Outcome.of_bind_ok made
    obtain ⟨found, holds, items, final⟩ := readRows_none_ok_iff.mp read
    cases same
    rw [← items, final, holds.getD_totalAfter]
    exact holds
  · intro holds
    unfold ofRows
    rw [readRows_none_ok_iff.mpr ⟨page, holds, rfl, rfl⟩]
    change Except.ok (Page.mk page.items _) = _
    rw [holds.getD_totalAfter]

private theorem ofRows_error_iff :
    (ofRows rows : Except RowFlaw (Page α)) = .error flaw ↔
      ∃ earlier row after, ∃ page : Page α, rows = earlier ++ row :: after ∧ page.Holds earlier ∧
        Spoils α (totalAfter none earlier page.total) row flaw := by
  constructor
  · intro failed
    rcases Outcome.of_bind_error failed with failed | ⟨_, _, failed⟩
    · obtain ⟨earlier, row, after, _, _, split, read, spoils⟩ := readRows_error_iff.mp failed
      obtain ⟨page, holds, rfl, rfl⟩ := readRows_none_ok_iff.mp read
      exact ⟨earlier, row, after, page, split, holds, spoils⟩
    · cases failed
  · intro failed
    obtain ⟨earlier, row, after, page, split, holds, spoils⟩ := failed
    have read := readRows_none_ok_iff.mpr ⟨page, holds, rfl, rfl⟩
    unfold ofRows
    rw [readRows_error_iff.mpr ⟨earlier, row, after, _, _, split, read, spoils⟩]
    rfl

/-- Rows make a page exactly when every one of them carries its total and reads as its item
without that; any other rows are refused for what is wrong with the first that does not. -/
theorem ofRows_outcome (rows : List Row) :
    (∀ page : Page α, ofRows rows = .ok page ↔ page.Holds rows) ∧
    ∀ flaw, (ofRows rows : Except RowFlaw (Page α)) = .error flaw ↔
      ∃ earlier row after, ∃ page : Page α, rows = earlier ++ row :: after ∧ page.Holds earlier ∧
        Spoils α (totalAfter none earlier page.total) row flaw :=
  ⟨fun _ => ofRows_ok_iff, fun _ => ofRows_error_iff⟩

end Page

end TagQuery
