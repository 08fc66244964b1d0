import TagQuery.Activity.Event

/-!
Running totals of events. A total that would leave the range of words stays at its end.
-/

namespace TagQuery

def addSaturating (total delta : UInt64) : UInt64 :=
  amount (total.toNat + delta.toNat)

structure Tally where
  compiles : UInt64 := 0
  tags : UInt64 := 0
  families : UInt64 := 0
  cacheHits : UInt64 := 0
  cacheMisses : UInt64 := 0
  cacheLoadedEntries : UInt64 := 0
  queries : UInt64 := 0
  writes : UInt64 := 0
  rowsReturned : UInt64 := 0
  rowsAffected : UInt64 := 0
  storageFaults : UInt64 := 0
  tagsCreated : UInt64 := 0
deriving DecidableEq, Repr

namespace Tally

def record (tally : Tally) : Event → Tally
  | .compiled tags families =>
    { tally with
      compiles := addSaturating tally.compiles 1
      tags := addSaturating tally.tags tags
      families := addSaturating tally.families families }
  | .lookedUp hits misses =>
    { tally with
      cacheHits := addSaturating tally.cacheHits hits
      cacheMisses := addSaturating tally.cacheMisses misses }
  | .cacheLoaded entries =>
    { tally with cacheLoadedEntries := addSaturating tally.cacheLoadedEntries entries }
  | .queried rows =>
    { tally with
      queries := addSaturating tally.queries 1
      rowsReturned := addSaturating tally.rowsReturned rows }
  | .wrote rows =>
    { tally with
      writes := addSaturating tally.writes 1
      rowsAffected := addSaturating tally.rowsAffected rows }
  | .storageFault => { tally with storageFaults := addSaturating tally.storageFaults 1 }
  | .tagsCreated count => { tally with tagsCreated := addSaturating tally.tagsCreated count }

/-- The totals of events since the counting began. -/
def ofEvents (events : List Event) : Tally :=
  events.foldl record {}

end Tally

/-- What is done to running totals: an event is recorded, or the counting begins anew. -/
inductive TallyStep where
  | record (event : Event)
  | reset
deriving DecidableEq, Repr

namespace Tally

def follow (tally : Tally) : TallyStep → Tally
  | .record event => tally.record event
  | .reset => {}

/-- The totals after steps taken one after another, from nothing counted. -/
def ofSteps (steps : List TallyStep) : Tally :=
  steps.foldl follow {}

end Tally

end TagQuery
