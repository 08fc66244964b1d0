/-!
A finite map that remembers the order in which its keys were first written. Writing a
key again replaces its value and leaves its place alone.
-/

namespace TagQuery

structure OrderedMap (κ υ : Type) where
  entries : List (κ × υ) := []
deriving Repr, DecidableEq

namespace OrderedMap

variable {κ υ : Type}

def empty : OrderedMap κ υ := {}

def keys (map : OrderedMap κ υ) : List κ :=
  map.entries.map Prod.fst

def values (map : OrderedMap κ υ) : List υ :=
  map.entries.map Prod.snd

def size (map : OrderedMap κ υ) : Nat :=
  map.entries.length

def isEmpty (map : OrderedMap κ υ) : Bool :=
  map.entries.isEmpty

variable [DecidableEq κ]

def get? (map : OrderedMap κ υ) (key : κ) : Option υ :=
  map.entries.lookup key

/-- The entries with one key written: in its old place, or at the end when it is new. -/
def write (key : κ) (value : υ) : List (κ × υ) → List (κ × υ)
  | [] => [(key, value)]
  | entry :: rest =>
    if entry.1 = key then (key, value) :: rest else entry :: write key value rest

def insert (map : OrderedMap κ υ) (key : κ) (value : υ) : OrderedMap κ υ :=
  ⟨write key value map.entries⟩

/-- Write entries one after another, so that the last of a repeated key stays. -/
def insertMany (map : OrderedMap κ υ) (entries : List (κ × υ)) : OrderedMap κ υ :=
  entries.foldl (fun known entry => known.insert entry.1 entry.2) map

def ofList (entries : List (κ × υ)) : OrderedMap κ υ :=
  empty.insertMany entries

/-- Write every entry of `newer` over `map`. -/
def extend (map newer : OrderedMap κ υ) : OrderedMap κ υ :=
  map.insertMany newer.entries

end OrderedMap

end TagQuery
