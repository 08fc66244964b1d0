import TagQuery.Action
import TagQuery.OrderedMap
import TagQuery.Tag.Basic

/-!
Caches of tag identifiers by signature. A cache answers no look-up before it has been
loaded for the first time, but it takes new entries at any time.
-/

namespace TagQuery

inductive CacheFault where
  /-- The one fault that concerns the question and not the cache. -/
  | notFound (signature : Signature)
  | unavailable (reason : String)
  | notReady
  | invalidEntry (key value : String)
deriving DecidableEq, Repr

namespace CacheFault

def isNotFound : CacheFault → Bool
  | .notFound _ => true
  | _ => false

def message : CacheFault → String
  | .notFound signature => "no tag id cached for '" ++ signature.text ++ "'"
  | .unavailable reason => "tag id cache unavailable: " ++ reason
  | .notReady => "tag id cache has not been initialized"
  | .invalidEntry key value =>
    "cache entry for '" ++ key ++ "' is not a tag id: '" ++ value ++ "'"

end CacheFault

/-- The identifiers of those signatures of a batch that have one. -/
abbrev Resolution := OrderedMap Signature TagId

/-- The entries in ascending order of their signatures. -/
def Resolution.sorted (resolved : Resolution) : List (Signature × TagId) :=
  resolved.entries.mergeSort fun left right => decide (left.1.text ≤ right.1.text)

/-- Look up a batch one by one. A signature that is not found is left out; any other
fault ends the batch. -/
def resolveEach {σ : Type} (lookup : Signature → Action CacheFault σ TagId)
    (signatures : List Signature) : Action CacheFault σ Resolution :=
  signatures.foldlM (fun resolved signature => do
    match ← (lookup signature).attempt with
    | .ok id => return resolved.insert signature id
    | .error (.notFound _) => return resolved
    | .error fault => throw fault) .empty

/-- What a cache can do. A cache without a batch look-up gets the one by one. -/
class IdCache (σ : Type) where
  /-- Add entries to those already there; from then on the cache is ready. -/
  load : List (Signature × TagId) → Action CacheFault σ Unit
  lookup : Signature → Action CacheFault σ TagId
  lookupMany : List Signature → Action CacheFault σ Resolution := resolveEach lookup
  /-- Add the entry of a new tag, in place of an older one for its signature. -/
  record : Signature → TagId → Action CacheFault σ Unit

end TagQuery
