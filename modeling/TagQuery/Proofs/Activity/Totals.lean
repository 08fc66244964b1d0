import Mathlib.Algebra.Ring.Nat
import Mathlib.Data.List.DropRight
import Mathlib.Data.List.Induction
import TagQuery.Activity.Tally
import TagQuery.Proofs.Activity.Amount

/-! What running totals come to: each is the exact sum of what the events since the last reset
add to it, cut off at the end of the range of words. -/

namespace TagQuery

/-- The totals of a tally. -/
inductive Counter where
  | compiles
  | tags
  | families
  | cacheHits
  | cacheMisses
  | cacheLoadedEntries
  | queries
  | writes
  | rowsReturned
  | rowsAffected
  | storageFaults
  | tagsCreated
deriving DecidableEq, Repr

def Tally.total (tally : Tally) : Counter → UInt64
  | .compiles => tally.compiles
  | .tags => tally.tags
  | .families => tally.families
  | .cacheHits => tally.cacheHits
  | .cacheMisses => tally.cacheMisses
  | .cacheLoadedEntries => tally.cacheLoadedEntries
  | .queries => tally.queries
  | .writes => tally.writes
  | .rowsReturned => tally.rowsReturned
  | .rowsAffected => tally.rowsAffected
  | .storageFaults => tally.storageFaults
  | .tagsCreated => tally.tagsCreated

/-- What an event adds to totals: one where events are counted, and else its own amounts. -/
def Event.shares : Event → List (Counter × UInt64)
  | .compiled tags families => [(.compiles, 1), (.tags, tags), (.families, families)]
  | .lookedUp hits misses => [(.cacheHits, hits), (.cacheMisses, misses)]
  | .cacheLoaded entries => [(.cacheLoadedEntries, entries)]
  | .queried rows => [(.queries, 1), (.rowsReturned, rows)]
  | .wrote rows => [(.writes, 1), (.rowsAffected, rows)]
  | .storageFault => [(.storageFaults, 1)]
  | .tagsCreated count => [(.tagsCreated, count)]

/-- What an event adds to a total, which is nothing when it does not name the total. -/
def Event.share (event : Event) (counter : Counter) : UInt64 :=
  (event.shares.lookup counter).getD 0

/-- The exact sum of what events add to a total. -/
def sumOf (events : List Event) (counter : Counter) : Nat :=
  (events.map fun event => (event.share counter).toNat).sum

def TallyStep.event? : TallyStep → Option Event
  | .record event => some event
  | .reset => none

/-- The events recorded after the last reset, or all of them when there was none. -/
def sinceReset (steps : List TallyStep) : List Event :=
  (steps.rtakeWhile fun step => step.event?.isSome).filterMap TallyStep.event?

@[simp] theorem addSaturating_zero (total : UInt64) : addSaturating total 0 = total := by
  apply UInt64.toNat_inj.mp
  rw [addSaturating, UInt64.toNat_zero, Nat.add_zero, toNat_amount_of_lt total.toNat_lt]

theorem toNat_addSaturating (total delta : UInt64) :
    (addSaturating total delta).toNat = min (total.toNat + delta.toNat) (2 ^ 64 - 1) :=
  toNat_amount _

@[simp] theorem sumOf_cons (event : Event) (events : List Event) (counter : Counter) :
    sumOf (event :: events) counter = (event.share counter).toNat + sumOf events counter := by
  simp [sumOf]

theorem sumOf_append (events more : List Event) (counter : Counter) :
    sumOf (events ++ more) counter = sumOf events counter + sumOf more counter := by
  simp [sumOf]

theorem sumOf_eq_zero {events : List Event} {counter : Counter}
    (untouched : ∀ event ∈ events, event.share counter = 0) : sumOf events counter = 0 := by
  induction events with
  | nil => rfl
  | cons event rest ih =>
    rw [List.forall_mem_cons] at untouched
    rw [sumOf_cons, untouched.1, ih untouched.2]
    rfl

theorem sumOf_perm {events others : List Event} (same : events.Perm others) (counter : Counter) :
    sumOf events counter = sumOf others counter :=
  (same.map _).sum_nat

@[simp] theorem sinceReset_append_record (steps : List TallyStep) (event : Event) :
    sinceReset (steps ++ [.record event]) = sinceReset steps ++ [event] := by
  rw [sinceReset, List.rtakeWhile_concat_pos _ _ _ rfl, List.filterMap_append]
  rfl

@[simp] theorem sinceReset_append_reset (steps : List TallyStep) :
    sinceReset (steps ++ [.reset]) = [] := by
  rw [sinceReset, List.rtakeWhile_concat_neg _ _ _ (by simp [TallyStep.event?])]
  rfl

theorem sinceReset_append_records (steps : List TallyStep) (events : List Event) :
    sinceReset (steps ++ events.map .record) = sinceReset steps ++ events := by
  induction events using List.reverseRecOn with
  | nil => simp
  | append_singleton earlier event ih =>
    rw [List.map_append, List.map_singleton, ← List.append_assoc, sinceReset_append_record, ih,
      List.append_assoc]

namespace Tally

/-- Tallies are told apart by their totals. -/
theorem eq_of_total_eq {first second : Tally}
    (same : ∀ counter, first.total counter = second.total counter) : first = second := by
  cases first
  cases second
  simp only [Tally.mk.injEq]
  exact ⟨same .compiles, same .tags, same .families, same .cacheHits, same .cacheMisses,
    same .cacheLoadedEntries, same .queries, same .writes, same .rowsReturned,
    same .rowsAffected, same .storageFaults, same .tagsCreated⟩

/-- An event adds its share to every total, and no total takes anything else from it. -/
theorem total_record (tally : Tally) (event : Event) (counter : Counter) :
    (tally.record event).total counter =
      addSaturating (tally.total counter) (event.share counter) := by
  cases event <;> cases counter <;> simp [record, total, Event.share, Event.shares, List.lookup_cons, beq_eq_decide]

/-- Cutting off along the way comes to cutting off once at the end. -/
theorem toNat_total_foldl (tally : Tally) (events : List Event) (counter : Counter) :
    ((events.foldl record tally).total counter).toNat =
      min ((tally.total counter).toNat + sumOf events counter) (2 ^ 64 - 1) := by
  induction events generalizing tally with
  | nil =>
    have below := (tally.total counter).toNat_lt
    simp only [List.foldl_nil, sumOf, List.map_nil, List.sum_nil]
    omega
  | cons event rest ih =>
    rw [List.foldl_cons, ih, total_record, toNat_addSaturating, sumOf_cons]
    omega

theorem toNat_total_ofEvents (events : List Event) (counter : Counter) :
    ((ofEvents events).total counter).toNat = min (sumOf events counter) (2 ^ 64 - 1) := by
  have zero : ((({} : Tally).total counter)).toNat = 0 := by
    cases counter <;> rfl
  rw [ofEvents, toNat_total_foldl, zero, Nat.zero_add]

/-- Nothing from before a reset is left in the totals. -/
theorem ofSteps_eq (steps : List TallyStep) : ofSteps steps = ofEvents (sinceReset steps) := by
  induction steps using List.reverseRecOn with
  | nil => rfl
  | append_singleton earlier step ih =>
    rw [ofSteps] at ih ⊢
    rw [List.foldl_append, ih]
    cases step with
    | record event => simp [ofEvents, follow]
    | reset => simp [ofEvents, follow]

/-- The totals are the sums of what was counted since the last reset, each cut off once at the
end of the range of words. So no total goes down as more is counted, the order of the events
does not matter, and a total that none of them adds to is zero. -/
theorem ofSteps_saturates (steps : List TallyStep) :
    (∀ counter, ((ofSteps steps).total counter).toNat =
      min (sumOf (sinceReset steps) counter) (2 ^ 64 - 1)) ∧
    (∀ counter (events : List Event),
      (ofSteps steps).total counter ≤ (ofSteps (steps ++ events.map .record)).total counter) ∧
    (∀ others, (sinceReset others).Perm (sinceReset steps) → ofSteps others = ofSteps steps) ∧
    ∀ counter, (∀ event ∈ sinceReset steps, event.share counter = 0) →
      (ofSteps steps).total counter = 0 := by
  have sums (run : List TallyStep) (counter : Counter) :
      ((ofSteps run).total counter).toNat = min (sumOf (sinceReset run) counter) (2 ^ 64 - 1) := by
    rw [ofSteps_eq, toNat_total_ofEvents]
  refine ⟨sums steps, ?_, ?_, ?_⟩
  · intro counter events
    apply UInt64.le_iff_toNat_le.mpr
    rw [sums, sums, sinceReset_append_records, sumOf_append]
    omega
  · intro others same
    apply eq_of_total_eq
    intro counter
    apply UInt64.toNat_inj.mp
    rw [sums, sums, sumOf_perm same]
  · intro counter untouched
    apply UInt64.toNat_inj.mp
    rw [sums, sumOf_eq_zero untouched]
    rfl

/-- Rows that are more than a total holds, counted after a reset. -/
def crowdedSteps : List TallyStep :=
  [.record (.queried 5), .reset, .record (.queried 18446744073709551615),
    .record (.compiled 2 3), .record (.queried 7)]

theorem ofSteps_saturates_crowded :
    (ofSteps crowdedSteps).rowsReturned = 18446744073709551615 ∧
    (ofSteps crowdedSteps).queries = 2 ∧ (ofSteps crowdedSteps).rowsAffected = 0 ∧
    ofSteps [.record (.queried 7), .record (.queried 18446744073709551615),
      .record (.compiled 2 3)] = ofSteps crowdedSteps := by
  obtain ⟨sums, _, reordered, untouched⟩ := ofSteps_saturates crowdedSteps
  refine ⟨?_, ?_, untouched .rowsAffected (by decide), reordered _ (by decide)⟩
  · exact UInt64.toNat_inj.mp ((sums .rowsReturned).trans rfl)
  · exact UInt64.toNat_inj.mp ((sums .queries).trans rfl)

end Tally

end TagQuery
