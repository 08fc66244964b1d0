import TagQuery.Filter.Formula
import TagQuery.Tag.Basic

/-!
Filters: formulas over tags. A valued tag with the key `sort` asks for an order and
filters nothing.
-/

namespace TagQuery

/-- The key of the valued tags that ask for an order. -/
def sortKey : String := "sort"

inductive Leaf where
  /-- Holds for every entity. -/
  | always
  | tag (named : Tag)
deriving DecidableEq, Repr

namespace Leaf

/-- The order a leaf asks for. -/
def directive? : Leaf → Option String
  | .always => none
  | .tag named => if named.key = sortKey then named.value else none

/-- The tag a leaf tests for. -/
def subject? (leaf : Leaf) : Option Tag :=
  match leaf with
  | .always => none
  | .tag named => if leaf.directive?.isSome then none else some named

end Leaf

abbrev Filter := Formula Leaf

namespace Filter

def always : Filter := .leaf .always

def ofTag (tag : Tag) : Filter := .leaf (.tag tag)

def bare (key : String) : Filter := ofTag (.bare key)

def valued (key value : String) : Filter := ofTag (.valued key value)

def sort (order : String) : Filter := valued sortKey order

/-- The filter that asks for all of the given ones; no filter at all asks for nothing. -/
def all : List Filter → Filter
  | [] => always
  | first :: others => Formula.conjunction first others

/-- Whether the filter is a leaf that asks for an order. -/
def isSortDirective : Filter → Bool
  | .leaf leaf => leaf.directive?.isSome
  | _ => false

def leafCount (filter : Filter) : Nat :=
  filter.leaves.length

/-- The orders asked for, from left to right. -/
def directives (filter : Filter) : List String :=
  filter.leaves.filterMap Leaf.directive?

/-- The tags tested for, from left to right. -/
def subjects (filter : Filter) : List Tag :=
  filter.leaves.filterMap Leaf.subject?

/-- The signatures of the tags tested for, each where it first occurs. -/
def signatures (filter : Filter) : List Signature :=
  (filter.subjects.map Tag.signature).eraseDups

end Filter

end TagQuery
