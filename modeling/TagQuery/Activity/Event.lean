/-!
What happens in a catalog, for whoever counts it.
-/

namespace TagQuery

/-- Amounts are words of 64 bits. -/
inductive Event where
  | compiled (tags families : UInt64)
  | lookedUp (hits misses : UInt64)
  | cacheLoaded (entries : UInt64)
  | queried (rows : UInt64)
  | wrote (rows : UInt64)
  | storageFault
  | tagsCreated (count : UInt64)
deriving DecidableEq, Repr

/-- A count as an amount; one beyond the range of words stays at its end. -/
def amount (count : Nat) : UInt64 :=
  UInt64.ofNat (min count (UInt64.size - 1))

end TagQuery
