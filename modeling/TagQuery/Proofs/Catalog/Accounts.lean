import TagQuery.Proofs.Catalog.Tracks

/-! The events of a catalog account for every call of its executor. -/

namespace TagQuery

/-- A request that was served: its answer, the calls that were made for it, and what was
reported meanwhile. -/
structure Served (ξ : Type) where
  request : Request
  answer : Except Failure request.Answer
  calls : List (ξ × ExecutorCall)
  events : List Event

/-- What was reported accounts for what was done. -/
structure Served.Accounted {ξ : Type} [Executor ξ] (schema : Schema) (served : Served ξ) :
    Prop where
  /-- Each call is reported once, by what came of it. -/
  calls : served.events.filter Event.isOfStore = served.calls.map served.request.account
  faults : .storageFault ∈ served.events ↔
    ∃ failure, served.answer = .error failure ∧ failure.kind = .storageFault
  /-- New tags are reported after an insert whose rows are read, and at no other time. -/
  creations : served.events.filter Event.isCreation =
    served.calls.filterMap (served.request.creation? schema)
  inserts : served.calls.countP (served.request.insertCall? schema = some ·.2) ≤ 1
  loadings : served.events.filter Event.isLoading =
    (served.request.loading? served.answer).toList

namespace Catalog

variable {σ ξ : Type} [IdCache σ] [Executor ξ]

/-- Serve a request, and note the calls and the events that it adds. -/
def attend (catalog : Catalog σ (Observed ξ)) (request : Request) :
    Served ξ × Catalog σ (Observed ξ) :=
  let ended := request.step.runFrom catalog
  ({ request
     answer := ended.1
     calls := ended.2.executor.history.drop catalog.executor.history.length
     events := ended.2.events.drop catalog.events.length }, ended.2)

/-- Serve requests one after another. -/
def attendAll (catalog : Catalog σ (Observed ξ)) :
    List Request → List (Served ξ) × Catalog σ (Observed ξ)
  | [] => ([], catalog)
  | request :: rest =>
    let first := catalog.attend request
    let later := first.2.attendAll rest
    (first.1 :: later.1, later.2)

/-- A request is accounted for, and what it adds is appended. -/
private theorem attend_of_tracks {catalog after : Catalog σ (Observed ξ)} {request : Request}
    {answer : Except Failure request.Answer} {calls : List (ξ × ExecutorCall)}
    {events loadings : List Event} {result : Except Failure Unit}
    (ran : request.step.runFrom catalog = (answer, after))
    (tracked : Tracks request catalog calls events loadings result after) :
    catalog.attend request = ({ request, answer, calls, events }, after) := by
  unfold attend
  rw [ran]
  dsimp only
  rw [tracked.history_eq, tracked.events_eq, List.drop_left, List.drop_left]

theorem accounted_attend (catalog : Catalog σ (Observed ξ)) (request : Request) :
    ∃ served after, catalog.attend request = (served, after) ∧ served.request = request ∧
      served.Accounted catalog.schema ∧ after.schema = catalog.schema ∧
      after.executor.history = catalog.executor.history ++ served.calls ∧
      after.events = catalog.events ++ served.events := by
  obtain ⟨calls, events, tracked, once⟩ := tracks_step catalog request
  rcases ran : request.step.runFrom catalog with ⟨answer, after⟩
  rw [ran] at tracked
  refine ⟨_, _, attend_of_tracks ran tracked, rfl, ?_, tracked.schema_eq, tracked.history_eq,
    tracked.events_eq⟩
  refine ⟨tracked.accounts, tracked.faults.trans ?_, tracked.creations, once, tracked.loadings_eq⟩
  simp only [Outcome.map_error_iff]

/-- Whatever is requested, whatever the cache and the executor answer, and whatever was done
before: the events are those of the requests in their order, the events of each request account
for it, and in all there are as many calls as reports of a call that went well or of a fault. -/
theorem attendAll_accounts (catalog : Catalog σ (Observed ξ)) (requests : List Request) :
    ∃ served after, catalog.attendAll requests = (served, after) ∧
      served.map Served.request = requests ∧
      after.executor.history = catalog.executor.history ++ served.flatMap Served.calls ∧
      after.events = catalog.events ++ served.flatMap Served.events ∧
      (∀ one ∈ served, one.Accounted catalog.schema) ∧
      (served.flatMap Served.calls).length =
        (served.flatMap Served.events).countP Event.isExecution +
          (served.flatMap Served.events).count .storageFault := by
  induction requests generalizing catalog with
  | nil => exact ⟨[], catalog, rfl, rfl, by simp, by simp, by simp, rfl⟩
  | cons request rest ih =>
    obtain ⟨first, middle, attended, same, accounted, schema, history, events⟩ :=
      catalog.accounted_attend request
    obtain ⟨served, after, ran, requests, history', events', all, total⟩ := ih middle
    have counted : first.calls.length =
        first.events.countP Event.isExecution + first.events.count .storageFault := by
      rw [← Event.length_filter_isOfStore, accounted.calls, List.length_map]
    rw [schema] at all
    refine ⟨first :: served, after, ?_, ?_, ?_, ?_, List.forall_mem_cons.mpr ⟨accounted, all⟩, ?_⟩
    · rw [attendAll, attended, ran]
    · rw [List.map_cons, same, requests]
    · rw [history', history, List.flatMap_cons, List.append_assoc]
    · rw [events', events, List.flatMap_cons, List.append_assoc]
    · rw [List.flatMap_cons, List.flatMap_cons, List.length_append, List.countP_append,
        List.count_append, counted, total]
      omega

end Catalog

end TagQuery
