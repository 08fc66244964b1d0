import TagQuery.Row.Basic

/-!
Pages of a listing. Every row of a page carries the number of matches on all pages in a
column of its own, which is taken off before the row is read.
-/

namespace TagQuery

/-- The column that carries the number of matches. -/
def totalColumn : String := "__total"

/-- The part of a listing that is asked for. -/
structure PageWindow where
  limit : UInt32
  offset : UInt32
deriving DecidableEq, Repr

namespace PageWindow

def first (limit : UInt32) : PageWindow := ⟨limit, 0⟩

/-- The window after this one; an offset that would leave its range stays at the end. -/
def next (window : PageWindow) : PageWindow :=
  { window with
    offset := UInt32.ofNat (min (window.offset.toNat + window.limit.toNat) (UInt32.size - 1)) }

/-- The window and a number of windows after it. -/
def walk (window : PageWindow) : Nat → List PageWindow
  | 0 => [window]
  | steps + 1 => window :: window.next.walk steps

end PageWindow

structure Page (α : Type) where
  items : List α
  total : UInt64
deriving DecidableEq, Repr

/-- The number of matches a row carries. -/
def Row.total (row : Row) : Except RowFlaw UInt64 :=
  match row.get? totalColumn with
  | none => .error (.missingColumn totalColumn)
  | some (.integer total) =>
    if total.toInt < 0 then
      .error (.invalid totalColumn ("negative total " ++ Number.writeInt64 total))
    else .ok total.toUInt64
  | some other => .error (.typeMismatch totalColumn "integer" other.kind)

namespace Page

variable {α : Type} [RowShape α]

/-- One row of a page: its total, which has to be that of the rows before, and its item. -/
def readRow (before : Option UInt64) (row : Row) : Except RowFlaw (UInt64 × α) := do
  let total ← row.total
  match before with
  | none => pure ()
  | some expected =>
    if expected ≠ total then
      throw (.invalid totalColumn ("rows disagree on total (" ++ Number.writeNat expected.toNat ++
        " vs " ++ Number.writeNat total.toNat ++ ")"))
  let item ← RowShape.ofRow (row.remove totalColumn)
  return (total, item)

/-- The items of rows, and the total of all rows so far if there was any. -/
def readRows (before : Option UInt64) : List Row → Except RowFlaw (List α × Option UInt64)
  | [] => .ok ([], before)
  | row :: rest => do
    let (total, item) ← readRow before row
    let (items, final) ← readRows (some total) rest
    return (item :: items, final)

/-- A page of the rows a store answered; without rows the total is zero. -/
def ofRows (rows : List Row) : Except RowFlaw (Page α) := do
  let (items, total) ← readRows none rows
  return { items, total := total.getD 0 }

end Page

end TagQuery
