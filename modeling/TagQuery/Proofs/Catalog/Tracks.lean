import TagQuery.Proofs.Catalog.Command
import TagQuery.Proofs.Catalog.Outcomes
import TagQuery.Proofs.Executor.Observed
import TagQuery.Proofs.Failure
import TagQuery.Proofs.Listing.Bound

/-! What every request adds to the calls of an executor and to the events of a catalog. -/

namespace TagQuery

namespace Event

/-- A call of the executor that went well. -/
def isExecution : Event → Bool
  | .queried _ | .wrote _ => true
  | _ => false

def isOfStore (event : Event) : Bool := event.isExecution || event == .storageFault

def isCreation : Event → Bool
  | .tagsCreated _ => true
  | _ => false

def isLoading : Event → Bool
  | .cacheLoaded _ => true
  | _ => false

theorem length_filter_isOfStore (events : List Event) : (events.filter isOfStore).length =
    events.countP isExecution + events.count .storageFault := by
  induction events with
  | nil => rfl
  | cons event rest ih =>
    rw [List.filter_cons, List.countP_cons, List.count_cons]
    cases event <;> simp [isOfStore, isExecution, ih] <;> omega

end Event

namespace Request

variable {ξ : Type} [Executor ξ]

/-- How many items the rows of an answer are read as. -/
def countRead : Request → List Row → Except StorageFault Nat
  | .command _, rows => (rows.mapM readRow : Except StorageFault (List StoredTag)).map List.length
  | @Request.listEntities α _ _ _, rows =>
    ((Page.ofRows rows : Except RowFlaw (Page α)).mapError .rowShape).map (·.items.length)
  | .listTags _ _, rows =>
    ((Page.ofRows rows : Except RowFlaw (Page TagUsage)).mapError .rowShape).map (·.items.length)
  | .entityTags _, rows => (rows.mapM readRow : Except StorageFault (List TagUsage)).map List.length

/-- What comes of a call that is made for a request: the event to report, or a fault. -/
def outcome (request : Request) : ξ × ExecutorCall → Except StorageFault Event
  | (executor, .query statement) => do
    let rows ← ((Executor.query statement).runFrom executor).1
    return .queried (amount (← request.countRead rows))
  | (executor, .execute statement) => ((Executor.execute statement).runFrom executor).1.map .wrote

/-- The event that a call is reported as. -/
def account (request : Request) (call : ξ × ExecutorCall) : Event :=
  match request.outcome call with
  | .ok event => event
  | .error _ => .storageFault

/-- The tags that a request stores if they are new. -/
def drafts? : Request → Option (List TagDraft)
  | .command (.createTags drafts) => some drafts
  | .command (.attachTag _ raw type) => some [⟨Tag.parse raw, type⟩]
  | _ => none

/-- The call that stores the tags of a request. -/
def insertCall? (schema : Schema) (request : Request) : Option ExecutorCall := do
  let prepared := schema.insertTags (Schema.distinctTags (← request.drafts?))
  let bound ← (prepared.statement.bind schema.dialect prepared.params).toOption
  return .query bound

/-- What is reported of new tags after a call: the number of rows that an insert returned. -/
def creation? (schema : Schema) (request : Request) (call : ξ × ExecutorCall) : Option Event :=
  match request.outcome call with
  | .ok (.queried count) =>
    if request.insertCall? schema = some call.2 then some (.tagsCreated count) else none
  | _ => none

/-- What is reported of the cache at the end of a request. -/
def loading? : (request : Request) → Except Failure request.Answer → Option Event
  | .command .loadCache, .ok count => some (.cacheLoaded (amount count))
  | _, _ => none

end Request

/-- A result that the store did not spoil. -/
inductive Spared : Except Failure Unit → Prop
  | ok : Spared (.ok ())
  | ofQuery (fault : QueryFault) : Spared (.error (.ofQuery fault))
  | ofCache (fault : CacheFault) : Spared (.error (.ofCache fault))

theorem Spared.kind_ne {failure : Failure} (spared : Spared (.error failure)) :
    failure.kind ≠ .storageFault := by
  cases spared with
  | ofQuery fault => exact nofun
  | ofCache fault => exact Failure.kind_ofCache_ne fault

theorem Spared.classified {failure : Failure} (spared : Spared (.error failure)) :
    failure.Classified := by
  cases spared with
  | ofQuery fault => exact Failure.classified_ofQuery fault
  | ofCache fault => exact Failure.classified_ofCache fault

/-- A call ends a request with its fault, or else the request does not fail for the store. -/
def Settles (outcome : Except StorageFault Event) (result : Except Failure Unit) : Prop :=
  match outcome with
  | .error fault => result = .error (.ofStorage fault)
  | .ok _ => Spared result

theorem Request.isExecution_of_outcome {ξ : Type} [Executor ξ] {request : Request}
    {call : ξ × ExecutorCall} {event : Event} (outcome : request.outcome call = .ok event) :
    event.isExecution := by
  obtain ⟨executor, statement | statement⟩ := call
  · obtain ⟨rows, _, more⟩ := Outcome.of_bind_ok outcome
    obtain ⟨count, _, same⟩ := Outcome.of_bind_ok more
    cases same
    rfl
  · change ((Executor.execute statement).runFrom executor).1.map .wrote = .ok event at outcome
    cases ran : ((Executor.execute statement).runFrom executor).1 with
    | error fault =>
      rw [ran] at outcome
      cases outcome
    | ok count =>
      rw [ran] at outcome
      cases outcome
      rfl

/-- The event of a call is one of the store and of nothing else. -/
theorem Request.account_cases {ξ : Type} [Executor ξ] (request : Request)
    (call : ξ × ExecutorCall) : (request.account call).isOfStore = true ∧
      (request.account call).isCreation = false ∧ (request.account call).isLoading = false := by
  unfold account
  cases outcome : request.outcome call with
  | error fault => exact ⟨rfl, rfl, rfl⟩
  | ok event =>
    have execution := isExecution_of_outcome outcome
    cases event with
    | queried rows => exact ⟨rfl, rfl, rfl⟩
    | wrote rows => exact ⟨rfl, rfl, rfl⟩
    | _ => cases execution

theorem Request.creation?_of_ne {ξ : Type} [Executor ξ] {schema : Schema} {request : Request}
    {call : ξ × ExecutorCall} (other : request.insertCall? schema ≠ some call.2) :
    request.creation? schema call = none := by
  unfold creation?
  split
  · exact if_neg other
  · rfl

theorem Request.insertCall?_ne_execute (schema : Schema) (request : Request)
    (bound : PositionalStatement) : request.insertCall? schema ≠ some (.execute bound) := by
  simp [insertCall?, Option.bind_eq_some_iff]

/-- What is reported of a compiled filter. -/
def ResolutionCounts.events (counts : ResolutionCounts) : List Event :=
  [.compiled (amount counts.signatures) (amount counts.families),
   .lookedUp (amount counts.resolved) (amount (counts.signatures - counts.resolved))]

namespace Catalog

variable {σ ξ : Type} [Executor ξ]

/-- What a part of a request adds to the history of its executor and to the events, and how
it ends. -/
structure Tracks (request : Request) (before : Catalog σ (Observed ξ))
    (calls : List (ξ × ExecutorCall)) (events loadings : List Event) (result : Except Failure Unit)
    (after : Catalog σ (Observed ξ)) : Prop where
  schema_eq : after.schema = before.schema
  history_eq : after.executor.history = before.executor.history ++ calls
  events_eq : after.events = before.events ++ events
  accounts : events.filter Event.isOfStore = calls.map request.account
  creations : events.filter Event.isCreation = calls.filterMap (request.creation? before.schema)
  loadings_eq : events.filter Event.isLoading = loadings
  failed : ∀ call ∈ calls, ∀ fault, request.outcome call = .error fault →
    result = .error (.ofStorage fault)
  refused : ∀ failure, result = .error failure → failure.kind = .storageFault →
    ∃ call ∈ calls, ∃ fault, request.outcome call = .error fault
  classified : ∀ failure, result = .error failure → failure.Classified

namespace Tracks

variable {request : Request} {before middle after : Catalog σ (Observed ξ)}
  {calls calls' : List (ξ × ExecutorCall)} {events events' loadings : List Event}
  {result : Except Failure Unit}

/-- A part that makes no call. -/
theorem quiet (schema_eq : after.schema = before.schema)
    (history_eq : after.executor.history = before.executor.history)
    (events_eq : after.events = before.events ++ events)
    (unrelated : ∀ event ∈ events, event.isOfStore = false ∧ event.isCreation = false)
    (loadings_eq : events.filter Event.isLoading = loadings)
    (spared : Spared result) :
    Tracks request before [] events loadings result after where
  schema_eq := schema_eq
  history_eq := by rw [history_eq, List.append_nil]
  events_eq := events_eq
  accounts := by simpa using fun event member => (unrelated event member).1
  creations := by simpa using fun event member => (unrelated event member).2
  loadings_eq := loadings_eq
  failed := by simp
  refused failure failed store := absurd store (failed ▸ spared).kind_ne
  classified failure failed := (failed ▸ spared).classified

theorem silent (schema_eq : after.schema = before.schema)
    (history_eq : after.executor.history = before.executor.history)
    (events_eq : after.events = before.events)
    (spared : Spared result) :
    Tracks request before [] [] [] result after :=
  quiet schema_eq history_eq (by rw [events_eq, List.append_nil]) (by simp) rfl spared

/-- A part that makes one call, and what it reports after that. -/
theorem called {call : ξ × ExecutorCall} (schema_eq : after.schema = before.schema)
    (history_eq : after.executor.history = before.executor.history ++ [call])
    (events_eq : after.events = before.events ++ request.account call :: events)
    (unrelated : ∀ event ∈ events, event.isOfStore = false)
    (creations : events.filter Event.isCreation = (request.creation? before.schema call).toList)
    (loadings_eq : events.filter Event.isLoading = loadings)
    (settles : Settles (request.outcome call) result) :
    Tracks request before [call] (request.account call :: events) loadings result after := by
  obtain ⟨ofStore, uncreating, unloading⟩ := request.account_cases call
  refine ⟨schema_eq, history_eq, events_eq, ?_, ?_, ?_, ?_, ?_, ?_⟩
  · rw [List.filter_cons_of_pos ofStore, List.filter_eq_nil_iff.mpr (by simpa using unrelated)]
    rfl
  · rw [List.filter_cons_of_neg (by simp [uncreating]), creations]
    cases created : request.creation? before.schema call <;> simp [created]
  · rw [List.filter_cons_of_neg (by simp [unloading]), loadings_eq]
  · intro other member fault failed
    obtain rfl := List.mem_singleton.mp member
    rw [failed] at settles
    exact settles
  · intro failure refused store
    cases outcome : request.outcome call with
    | error fault => exact ⟨call, List.mem_singleton_self call, fault, outcome⟩
    | ok event =>
      rw [outcome, refused] at settles
      exact absurd store (Spared.kind_ne settles)
  · intro failure refused
    cases outcome : request.outcome call with
    | error fault =>
      rw [outcome, refused] at settles
      cases settles
      exact Failure.classified_ofStorage fault
    | ok event =>
      rw [outcome, refused] at settles
      exact Spared.classified settles

/-- The store failed a request exactly when a fault of it is reported. -/
theorem faults (tracked : Tracks request before calls events loadings result after) :
    .storageFault ∈ events ↔
      ∃ failure, result = .error failure ∧ failure.kind = .storageFault := by
  have reported : .storageFault ∈ events ↔ .storageFault ∈ calls.map request.account := by
    rw [← tracked.accounts, List.mem_filter]
    exact (and_iff_left rfl).symm
  rw [reported, List.mem_map]
  constructor
  · rintro ⟨call, member, account⟩
    cases outcome : request.outcome call with
    | error fault => exact ⟨_, tracked.failed call member fault outcome, rfl⟩
    | ok event =>
      rw [Request.account, outcome] at account
      have execution := Request.isExecution_of_outcome outcome
      rw [show event = .storageFault from account] at execution
      cases execution
  · rintro ⟨failure, failed, store⟩
    obtain ⟨call, member, fault, outcome⟩ := tracked.refused failure failed store
    exact ⟨call, member, by rw [Request.account, outcome]⟩

/-- Two parts of a request, the second after the first went well. -/
theorem append (first : Tracks request before calls events [] (.ok ()) middle)
    (second : Tracks request middle calls' events' loadings result after) :
    Tracks request before (calls ++ calls') (events ++ events') loadings result after where
  schema_eq := second.schema_eq.trans first.schema_eq
  history_eq := by rw [second.history_eq, first.history_eq, List.append_assoc]
  events_eq := by rw [second.events_eq, first.events_eq, List.append_assoc]
  accounts := by rw [List.filter_append, first.accounts, second.accounts, List.map_append]
  creations := by
    rw [List.filter_append, first.creations, second.creations, first.schema_eq,
      List.filterMap_append]
  loadings_eq := by rw [List.filter_append, first.loadings_eq, second.loadings_eq, List.nil_append]
  failed call member fault failed := by
    rcases List.mem_append.mp member with earlier | later
    · cases first.failed call earlier fault failed
    · exact second.failed call later fault failed
  refused failure failed store := by
    obtain ⟨call, member, fault, failed⟩ := second.refused failure failed store
    exact ⟨call, List.mem_append_right _ member, fault, failed⟩
  classified := second.classified

end Tracks

variable {request : Request} {catalog : Catalog σ (Observed ξ)} {α : Type} {prepared : Prepared}
  {bound : PositionalStatement}

/-- A query that binds is one call, and what comes of the call is answered and reported. -/
private theorem call_of_queried {read : List Row → Except StorageFault α} {size : α → Nat}
    {ended : Except Failure α × Catalog σ (Observed ξ)} (request : Request)
    (binds : prepared.Binds catalog.schema.dialect bound)
    (counts : ∀ rows, request.countRead rows = (read rows).map size)
    (queried : catalog.Queried prepared read size ended) :
    let call := (catalog.executor.executor, .query bound)
    ended.2.schema = catalog.schema ∧
      ended.2.executor.history = catalog.executor.history ++ [call] ∧
      ended.2.events = catalog.events ++ [request.account call] ∧
      match ended.1 with
      | .ok answer => request.outcome call = .ok (.queried (amount (size answer)))
      | .error failure => ∃ fault, request.outcome call = .error fault ∧
          failure = .ofStorage fault := by
  have outcome_of_answer {rows : List Row}
      (answered : ((Executor.query bound).runFrom catalog.executor.executor).1 = .ok rows) :
      request.outcome (catalog.executor.executor, .query bound) =
        (read rows).map fun answer => .queried (amount (size answer)) := by
    rw [Request.outcome, answered]
    change (request.countRead rows >>= fun count => pure _) = _
    rw [counts]
    cases read rows <;> rfl
  rw [queried.eq_of_binds binds, Observed.runFrom_query]
  cases answered : ((Executor.query bound).runFrom catalog.executor.executor).1 with
  | error fault =>
    have outcome : request.outcome (catalog.executor.executor, .query bound) = .error fault := by
      rw [Request.outcome, answered]
      rfl
    exact ⟨rfl, rfl, by simp [faulted, Request.account, outcome], fault, outcome, rfl⟩
  | ok rows =>
    have outcome := outcome_of_answer answered
    dsimp only
    cases reads : read rows with
    | error fault =>
      rw [reads] at outcome
      refine ⟨rfl, rfl, ?_, fault, outcome, rfl⟩
      simp [faulted, Request.account, outcome, Except.map]
    | ok answer =>
      rw [reads] at outcome
      refine ⟨rfl, rfl, ?_, outcome⟩
      simp [Request.account, outcome, Except.map]

theorem tracks_queried {read : List Row → Except StorageFault α} {size : α → Nat}
    {ended : Except Failure α × Catalog σ (Observed ξ)} (request : Request)
    (binds : prepared.Binds catalog.schema.dialect bound)
    (counts : ∀ rows, request.countRead rows = (read rows).map size)
    (other : request.insertCall? catalog.schema = none)
    (queried : catalog.Queried prepared read size ended) :
    ∃ call event, Tracks request catalog [call] [event] [] (ended.1.map fun _ => ()) ended.2 := by
  obtain ⟨schema, history, events, answer⟩ := call_of_queried request binds counts queried
  refine ⟨_, _, .called schema history events (by simp) ?_ rfl ?_⟩
  · rw [Request.creation?_of_ne (by rw [other]; exact nofun)]
    rfl
  · rcases ended with ⟨failure | value, after⟩
    · obtain ⟨fault, outcome, rfl⟩ := answer
      rw [outcome]
      rfl
    · dsimp only at answer
      rw [answer]
      exact Spared.ok

theorem tracks_written {ended : Except Failure UInt64 × Catalog σ (Observed ξ)}
    (request : Request) (binds : prepared.Binds catalog.schema.dialect bound)
    (written : catalog.Written prepared ended) :
    ∃ event, Tracks request catalog [(catalog.executor.executor, .execute bound)] [event] []
      (ended.1.map fun _ => ()) ended.2 := by
  have uncreating : request.creation? catalog.schema (catalog.executor.executor, .execute bound) =
      none := Request.creation?_of_ne (request.insertCall?_ne_execute catalog.schema bound)
  rw [written.eq_of_binds binds, Observed.runFrom_execute]
  cases answered : ((Executor.execute bound).runFrom catalog.executor.executor).1 with
  | error fault =>
    have outcome : request.outcome (catalog.executor.executor, .execute bound) = .error fault := by
      rw [Request.outcome, answered]
      rfl
    refine ⟨_, .called rfl rfl ?_ (by simp) (by rw [uncreating]; rfl) rfl (by rw [outcome]; rfl)⟩
    simp [faulted, Request.account, outcome]
  | ok count =>
    have outcome : request.outcome (catalog.executor.executor, .execute bound) =
        .ok (.wrote count) := by
      rw [Request.outcome, answered]
      rfl
    refine ⟨_, .called rfl rfl ?_ (by simp) (by rw [uncreating]; rfl) rfl ?_⟩
    · simp [Request.account, outcome]
    · rw [outcome]
      exact Spared.ok

variable [IdCache σ] {middle : Catalog σ (Observed ξ)} {entity : Int64} {tag : Tag}

/-- Asking the cache is reported nowhere. -/
private theorem tracks_resolved {ended : Except Failure TagId × Catalog σ (Observed ξ)}
    (request : Request) (resolved : catalog.Resolved tag ended) :
    Tracks request catalog [] [] [] (ended.1.map fun _ => ()) ended.2 := by
  cases resolved with
  | @invalid fault _ => exact .silent rfl rfl rfl (.ofQuery fault)
  | @unknown fault _ _ _ => exact .silent rfl rfl rfl (.ofCache fault)
  | known _ _ => exact .silent rfl rfl rfl .ok

/-- A write after the cache was asked is the only call. -/
private theorem tracks_change {id : TagId} {ended : Except Failure UInt64 × Catalog σ (Observed ξ)}
    (request : Request)
    (binds : ∀ dialect, prepared.statement.BindsInOrder dialect prepared.params)
    (resolved : catalog.Resolved tag (.ok id, middle)) (written : middle.Written prepared ended) :
    ∃ calls events, Tracks request catalog calls events [] (ended.1.map fun _ => ()) ended.2 ∧
      ∀ call ∈ calls, ∃ bound, call.2 = .execute bound := by
  have asked := tracks_resolved request resolved
  obtain ⟨bound, binds, _⟩ := binds middle.schema.dialect
  obtain ⟨event, wrote⟩ := tracks_written request binds written
  exact ⟨_, _, asked.append wrote, by simp⟩

private theorem tracks_added {ended : Except Failure Bool × Catalog σ (Observed ξ)}
    (request : Request) (added : catalog.Added entity tag ended) :
    ∃ calls events, Tracks request catalog calls events [] (ended.1.map fun _ => ()) ended.2 ∧
      ∀ call ∈ calls, ∃ bound, call.2 = .execute bound := by
  cases added with
  | unresolved resolved => exact ⟨_, _, tracks_resolved request resolved, by simp⟩
  | unwritten resolved written =>
    exact tracks_change request (fun dialect =>
      Schema.bindsInOrder_attach catalog.schema_checked dialect entity _) resolved written
  | written resolved written =>
    exact tracks_change request (fun dialect =>
      Schema.bindsInOrder_attach catalog.schema_checked dialect entity _) resolved written

private theorem tracks_removed {ended : Except Failure Bool × Catalog σ (Observed ξ)}
    (request : Request) (removed : catalog.Removed entity tag ended) :
    ∃ calls events, Tracks request catalog calls events [] (ended.1.map fun _ => ()) ended.2 := by
  have binds (id : TagId) (dialect : Dialect) :=
    Schema.bindsInOrder_detach catalog.schema_checked dialect entity id
  cases removed with
  | unresolved resolved _ => exact ⟨_, _, tracks_resolved request resolved⟩
  | unknown resolved _ =>
    have asked := tracks_resolved request resolved
    refine ⟨_, _, .silent asked.schema_eq ?_ ?_ .ok⟩
    · rw [asked.history_eq, List.append_nil]
    · rw [asked.events_eq, List.append_nil]
  | unwritten resolved written =>
    obtain ⟨calls, events, tracked, _⟩ := tracks_change request (binds _) resolved written
    exact ⟨calls, events, tracked⟩
  | written resolved written =>
    obtain ⟨calls, events, tracked, _⟩ := tracks_change request (binds _) resolved written
    exact ⟨calls, events, tracked⟩

private theorem tracks_loaded {ended : Except Failure Nat × Catalog σ (Observed ξ)}
    (loaded : catalog.Loaded ended) :
    ∃ calls events, Tracks (.command .loadCache) catalog calls events
      (Request.loading? (.command .loadCache) ended.1).toList (ended.1.map fun _ => ()) ended.2 := by
  obtain ⟨bound, binds, _⟩ :=
    Schema.bindsInOrder_listAllTags catalog.schema_checked catalog.schema.dialect
  cases loaded with
  | unread queried =>
    obtain ⟨call, event, tracked⟩ := tracks_queried (.command .loadCache) binds (fun _ => rfl) rfl
      queried
    exact ⟨_, _, tracked⟩
  | @refused records middle fault _ queried given =>
    obtain ⟨call, event, tracked⟩ := tracks_queried (.command .loadCache) binds (fun _ => rfl) rfl
      queried
    exact ⟨_, _, tracked.append (.silent rfl rfl rfl (.ofCache fault))⟩
  | @loaded records middle _ queried given =>
    obtain ⟨call, event, tracked⟩ := tracks_queried (.command .loadCache) binds (fun _ => rfl) rfl
      queried
    refine ⟨_, _, tracked.append (.quiet rfl rfl rfl ?_ rfl .ok)⟩
    simp [Event.isOfStore, Event.isExecution, Event.isCreation]

/-- An insert is one call, and what it returned is reported when it can be read. -/
private theorem tracks_created (command : Command) {drafts : List TagDraft}
    {ended : Except Failure (List StoredTag) × Catalog σ (Observed ξ)}
    (drafted : (Request.command command).drafts? = some drafts)
    (created : catalog.Created drafts ended) :
    ∃ calls events, Tracks (.command command) catalog calls events [] (ended.1.map fun _ => ())
      ended.2 ∧ calls.length ≤ 1 := by
  obtain ⟨bound, binds, _⟩ := Schema.bindsInOrder_insertTags catalog.schema_checked
    catalog.schema.dialect (Schema.distinctTags drafts)
  have inserts : (Request.command command).insertCall? catalog.schema = some (.query bound) := by
    rw [Request.insertCall?, drafted]
    simp [binds, Except.toOption]
  cases created with
  | @invalid fault _ => exact ⟨_, _, .silent rfl rfl rfl (.ofQuery fault), by simp⟩
  | nothing _ => exact ⟨_, _, .silent rfl rfl rfl .ok, by simp⟩
  | unstored _ queried =>
    obtain ⟨schema, history, events, answer⟩ :=
      call_of_queried (.command command) binds (fun _ => rfl) queried
    obtain ⟨fault, outcome, rfl⟩ := answer
    refine ⟨_, _, .called schema history events (by simp) ?_ rfl ?_, by simp⟩
    · rw [Request.creation?, outcome]
      rfl
    · rw [outcome]
      rfl
  | @offered records middle _ queried =>
    obtain ⟨schema, history, events, outcome⟩ :=
      call_of_queried (.command command) binds (fun _ => rfl) queried
    dsimp only at outcome
    refine ⟨_, [_, .tagsCreated (amount records.length)],
      .called schema history ?_ (by simp [Event.isOfStore, Event.isExecution]) ?_ rfl ?_, by simp⟩
    · rw [events, List.append_assoc]
      rfl
    · rw [Request.creation?, outcome, inserts]
      simp [Event.isCreation]
    · rw [outcome]
      cases (offerAll records middle.cache).1 with
      | none => exact Spared.ok
      | some fault => exact Spared.ofCache fault

/-- Of the calls of an attachment only the first can be an insert. -/
private theorem tracks_attached {raw : String} {type : TagKind}
    {ended : Except Failure Bool × Catalog σ (Observed ξ)}
    (attached : catalog.Attached entity raw type ended) :
    let request := Request.command (.attachTag entity raw type)
    ∃ calls events, Tracks request catalog calls events [] (ended.1.map fun _ => ()) ended.2 ∧
      calls.countP (fun call => request.insertCall? catalog.schema = some call.2) ≤ 1 := by
  intro request
  have writes {calls : List (ξ × ExecutorCall)}
      (executes : ∀ call ∈ calls, ∃ bound, call.2 = .execute bound) :
      calls.countP (fun call => request.insertCall? catalog.schema = some call.2) = 0 := by
    rw [List.countP_eq_zero]
    intro call member
    obtain ⟨bound, same⟩ := executes call member
    simpa [same] using request.insertCall?_ne_execute catalog.schema bound
  have asked (cache : σ) : Tracks request catalog [] [] [] (.ok ()) { catalog with cache } :=
    .silent rfl rfl rfl .ok
  cases attached with
  | known _ added =>
    obtain ⟨calls, events, tracked, executes⟩ := tracks_added request added
    exact ⟨_, _, (asked _).append tracked, (writes executes).le.trans (Nat.zero_le 1)⟩
  | @refused fault _ _ _ =>
    exact ⟨_, _, .silent rfl rfl rfl (.ofCache fault), Nat.zero_le 1⟩
  | uncreated _ created =>
    obtain ⟨calls, events, tracked, once⟩ := tracks_created (.attachTag entity raw type) rfl created
    exact ⟨_, _, (asked _).append tracked, List.countP_le_length.trans once⟩
  | created _ created added =>
    obtain ⟨calls, events, tracked, once⟩ := tracks_created (.attachTag entity raw type) rfl created
    obtain ⟨calls', events', tracked', executes⟩ := tracks_added request added
    refine ⟨_, _, ((asked _).append tracked).append tracked', ?_⟩
    rw [List.nil_append, List.countP_append, writes executes]
    exact List.countP_le_length.trans once

omit [Executor ξ] in
/-- A filter is compiled with the cache of the catalog, and reported when it is. -/
theorem runFrom_compileFilter (catalog : Catalog σ ξ) (filter : Filter) :
    (compileFilter filter : Step σ ξ _).runFrom catalog =
      match filter.compile.runFrom catalog.cache with
      | (.error failure, cache) => (.error failure, { catalog with cache })
      | (.ok compiled, cache) => (.ok compiled,
          { catalog with cache, events := catalog.events ++ compiled.counts.events }) := by
  unfold compileFilter
  rw [Action.runFrom_bind, withCache, Action.runFrom_onPart]
  rcases filter.compile.runFrom catalog.cache with ⟨failure | compiled, cache⟩
  · rfl
  · dsimp only
    rw [Action.runFrom_bind_of_ok (runFrom_report _ _),
      Action.runFrom_bind_of_ok (runFrom_report _ _), List.append_assoc]
    rfl

private theorem tracks_listEntities (catalog : Catalog σ (Observed ξ)) {α : Type}
    (shape : RowShape α) (filter : Filter) (window : PageWindow) :
    let ended := (listEntities filter window : Step σ (Observed ξ) (Page α)).runFrom catalog
    ∃ calls events, Tracks (.listEntities shape filter window) catalog calls events []
      (ended.1.map fun _ => ()) ended.2 := by
  intro ended
  have same : ended = (listEntities filter window).runFrom catalog := rfl
  unfold listEntities at same
  rw [Action.runFrom_bind, runFrom_compileFilter] at same
  rcases compiles : filter.compile.runFrom catalog.cache with ⟨failure | compiled, cache⟩
  · rw [compiles] at same
    rw [same]
    refine ⟨_, _, .silent rfl rfl rfl ?_⟩
    rcases Filter.of_compile_error compiles with ⟨fault, rfl, _⟩ | ⟨fault, _, rfl⟩ | ⟨_, fault, _, rfl⟩
    · exact Spared.ofQuery fault
    · exact Spared.ofCache fault
    · exact Spared.ofQuery fault
  · rw [compiles] at same
    dsimp only at same
    rw [Action.runFrom_bind_of_ok (Action.runFrom_get _)] at same
    obtain ⟨_, _, _, made⟩ := Filter.of_compile_ok compiles
    obtain ⟨bound, binds⟩ :=
      Schema.binds_listEntities catalog.schema_checked catalog.schema.dialect made window
    let middle : Catalog σ (Observed ξ) :=
      { catalog with cache, events := catalog.events ++ compiled.counts.events }
    have queried := queried_page (α := α) middle (catalog.schema.listEntities compiled window)
    have binds : (catalog.schema.listEntities compiled window).Binds middle.schema.dialect bound :=
      binds
    obtain ⟨call, event, tracked⟩ := tracks_queried (.listEntities shape filter window) binds
      (fun _ => rfl) rfl queried
    have reported : Tracks (.listEntities shape filter window) catalog [] compiled.counts.events []
        (.ok ()) middle :=
      .quiet rfl rfl rfl (by simp [ResolutionCounts.events, Event.isOfStore, Event.isExecution,
        Event.isCreation]) rfl .ok
    rw [same]
    exact ⟨_, _, reported.append tracked⟩

omit [IdCache σ] [Executor ξ] in
private theorem countP_insertCall_of_none {schema : Schema}
    (other : request.insertCall? schema = none) (calls : List (ξ × ExecutorCall)) :
    calls.countP (fun call => request.insertCall? schema = some call.2) ≤ 1 := by
  simp [other]

/-- Whatever is requested, the calls are reported, and at most one of them is an insert. -/
theorem tracks_step (catalog : Catalog σ (Observed ξ)) (request : Request) :
    ∃ calls events, Tracks request catalog calls events
      (request.loading? (request.step.runFrom catalog).1).toList
      ((request.step.runFrom catalog).1.map fun _ => ()) (request.step.runFrom catalog).2 ∧
        calls.countP (fun call => request.insertCall? catalog.schema = some call.2) ≤ 1 := by
  cases request with
  | command command =>
    cases command with
    | loadCache =>
      obtain ⟨calls, events, tracked⟩ := tracks_loaded (loaded catalog)
      exact ⟨calls, events, tracked, countP_insertCall_of_none rfl _⟩
    | createTags drafts =>
      obtain ⟨calls, events, tracked, once⟩ :=
        tracks_created (.createTags drafts) rfl (created catalog drafts)
      exact ⟨calls, events, tracked, List.countP_le_length.trans once⟩
    | addTag entity tag =>
      obtain ⟨calls, events, tracked, _⟩ :=
        tracks_added (.command (.addTag entity tag)) (added catalog entity tag)
      exact ⟨calls, events, tracked, countP_insertCall_of_none rfl _⟩
    | removeTag entity tag =>
      obtain ⟨calls, events, tracked⟩ :=
        tracks_removed (.command (.removeTag entity tag)) (removed catalog entity tag)
      exact ⟨calls, events, tracked, countP_insertCall_of_none rfl _⟩
    | attachTag entity raw type => exact tracks_attached (attached catalog entity raw type)
  | listEntities shape filter window =>
    obtain ⟨calls, events, tracked⟩ := tracks_listEntities catalog shape filter window
    exact ⟨calls, events, tracked, countP_insertCall_of_none rfl _⟩
  | listTags search window =>
    obtain ⟨bound, binds⟩ :=
      Schema.binds_listTags catalog.schema_checked catalog.schema.dialect search window
    obtain ⟨call, event, tracked⟩ := tracks_queried (.listTags search window) binds (fun _ => rfl)
      rfl (queried_listTags catalog search window)
    exact ⟨_, _, tracked, countP_insertCall_of_none rfl _⟩
  | entityTags entity =>
    obtain ⟨bound, binds⟩ :=
      Schema.binds_listEntityTags catalog.schema_checked catalog.schema.dialect entity
    obtain ⟨call, event, tracked⟩ := tracks_queried (.entityTags entity) binds (fun _ => rfl) rfl
      (queried_entityTags catalog entity)
    exact ⟨_, _, tracked, countP_insertCall_of_none rfl _⟩

end Catalog

end TagQuery
