import TagQuery.Proofs.Action.Mirrors
import TagQuery.Proofs.Catalog.Accounts
import TagQuery.Proofs.IdCache.Observed

/-! A catalog answers as one does whose cache and whose executor are views of its own: what is
noted of calls changes no answer, and no answer tells what kind of cache there is. -/

namespace TagQuery

/-- A cache that answers as the one does which is seen in it. -/
structure IdCache.View {σ σ' : Type} [IdCache σ] [IdCache σ'] (view : σ → σ') : Prop where
  load (entries : List (Signature × TagId)) :
    Action.Mirrors view (IdCache.load entries) (IdCache.load entries)
  lookup (signature : Signature) :
    Action.Mirrors view (IdCache.lookup signature) (IdCache.lookup signature)
  lookupMany (signatures : List Signature) :
    Action.Mirrors view (IdCache.lookupMany signatures) (IdCache.lookupMany signatures)
  record (signature : Signature) (id : TagId) :
    Action.Mirrors view (IdCache.record signature id) (IdCache.record signature id)

/-- An executor that answers as the one does which is seen in it. -/
structure Executor.View {ξ ξ' : Type} [Executor ξ] [Executor ξ'] (view : ξ → ξ') : Prop where
  query (statement : PositionalStatement) :
    Action.Mirrors view (Executor.query statement) (Executor.query statement)
  execute (statement : PositionalStatement) :
    Action.Mirrors view (Executor.execute statement) (Executor.execute statement)

theorem IdCache.View.refl (σ : Type) [IdCache σ] : IdCache.View (id : σ → σ) :=
  ⟨fun _ _ => rfl, fun _ _ => rfl, fun _ _ => rfl, fun _ _ _ => rfl⟩

theorem Executor.View.refl (ξ : Type) [Executor ξ] : Executor.View (id : ξ → ξ) :=
  ⟨fun _ _ => rfl, fun _ _ => rfl⟩

/-- A result is known by an answer that tells results apart. -/
private theorem mirrors_of_replying {σ σ' α : Type} {view : σ → σ'} {step : Action CacheFault σ α}
    {seen : Action CacheFault σ' α} {reply : α → CacheReply} (apart : Function.Injective reply)
    (same : ∀ cache, CacheCall.perform.replying (view cache) reply seen =
      ((CacheCall.perform.replying cache reply step).1,
        view (CacheCall.perform.replying cache reply step).2)) :
    Action.Mirrors view step seen := by
  intro cache
  obtain ⟨results, after⟩ := Prod.mk.inj (same cache)
  refine Prod.ext ?_ after
  generalize (seen.runFrom (view cache)).1 = result at results
  change result.map reply = (step.runFrom cache).1.map reply at results
  change result = (step.runFrom cache).1
  generalize (step.runFrom cache).1 = result' at results
  cases result with
  | error fault =>
    cases result' with
    | error fault' =>
      cases results
      rfl
    | ok value' => cases results
  | ok value =>
    cases result' with
    | error fault' => cases results
    | ok value' => exact congrArg Except.ok (apart (Except.ok.inj results))

/-- Caches that answer every call alike look alike. -/
theorem IdCache.View.of_perform {σ σ' : Type} [IdCache σ] [IdCache σ'] {view : σ → σ'}
    (same : ∀ (cache : σ) (call : CacheCall),
      call.perform (view cache) = ((call.perform cache).1, view (call.perform cache).2)) :
    IdCache.View view where
  load entries := mirrors_of_replying (fun _ _ _ => rfl) fun cache => same cache (.load entries)
  lookup signature :=
    mirrors_of_replying (fun _ _ => CacheReply.found.inj) fun cache => same cache (.lookup signature)
  lookupMany signatures :=
    mirrors_of_replying (fun _ _ => CacheReply.resolved.inj) fun cache =>
      same cache (.lookupMany signatures)
  record signature id :=
    mirrors_of_replying (fun _ _ _ => rfl) fun cache => same cache (.record signature id)

/-- A cache in a store of the process is seen in one that is in the process itself. -/
theorem ResidentCache.view_shared (keyStart : String) :
    IdCache.View (ResidentCache.shared keyStart) :=
  .of_perform fun cache call => cache.perform_shared keyStart call

theorem ObservedCache.view (σ : Type) [IdCache σ] :
    IdCache.View (ObservedCache.cache : ObservedCache σ → σ) :=
  ⟨fun _ _ => rfl, fun _ _ => rfl, fun _ _ => rfl, fun _ _ _ => rfl⟩

theorem Observed.view (ξ : Type) [Executor ξ] :
    Executor.View (Observed.executor : Observed ξ → ξ) :=
  ⟨fun _ _ => rfl, fun _ _ => rfl⟩

section Caches

variable {σ σ' : Type} [IdCache σ] [IdCache σ'] {view : σ → σ'} (views : IdCache.View view)

include views

theorem Filter.mirrors_compile (filter : Filter) :
    Action.Mirrors view filter.compile filter.compile := by
  have resolves (signatures : List Signature) :
      Action.Mirrors view (resolve signatures) (resolve signatures) := by
    unfold resolve
    split
    · exact .pure _
    · exact views.lookupMany _
  refine (Action.Mirrors.ofExcept _).bind fun _ => ?_
  refine ((resolves _).mapFault Failure.ofCache).bind fun _ => ?_
  exact .ofExcept _

theorem Tag.mirrors_resolve (tag : Tag) : Action.Mirrors view tag.resolve tag.resolve :=
  (Action.Mirrors.ofExcept _).bind fun _ => (views.lookup _).mapFault Failure.ofCache

end Caches

namespace Catalog

variable {σ σ' ξ ξ' α : Type}

/-- A catalog with its cache and its executor as they are seen. -/
def viewed (cache : σ → σ') (executor : ξ → ξ') (catalog : Catalog σ ξ) : Catalog σ' ξ' :=
  { catalog with cache := cache catalog.cache, executor := executor catalog.executor }

variable {cache : σ → σ'} {executor : ξ → ξ'}

theorem mirrors_report (event : Event) :
    Action.Mirrors (viewed cache executor) (report event) (report event) :=
  .modify fun _ => rfl

/-- What is done to the cache of a catalog as it answers. -/
private theorem mirrors_cache {ε : Type} {step : Action ε σ α} {seen : Action ε σ' α}
    (mirrors : Action.Mirrors cache step seen) : Action.Mirrors (viewed cache executor)
      (step.onPart Catalog.cache fun catalog cache => { catalog with cache })
      (seen.onPart Catalog.cache fun catalog cache => { catalog with cache }) :=
  mirrors.onPart (fun _ => rfl) fun _ _ => rfl

private theorem mirrors_onExecutor {step : Action StorageFault ξ α}
    {seen : Action StorageFault ξ' α} (mirrors : Action.Mirrors executor step seen) :
    Action.Mirrors (viewed cache executor) (onExecutor step) (onExecutor seen) := by
  have part : Action.Mirrors (viewed cache executor)
      (step.onPart Catalog.executor fun catalog executor => { catalog with executor })
      (seen.onPart Catalog.executor fun catalog executor => { catalog with executor }) :=
    mirrors.onPart (fun _ => rfl) fun _ _ => rfl
  refine part.attempt.bind fun result => ?_
  cases result with
  | ok answer => exact .pure answer
  | error fault => exact (mirrors_report _).bind fun _ => .throw _

section Executing

variable [Executor ξ] [Executor ξ'] (executes : Executor.View executor)

include executes

private theorem mirrors_fetch (statement : Statement) (dialect : Dialect) (params : Params)
    (promise : RowPromise) : Action.Mirrors executor (statement.fetch dialect params promise)
      (statement.fetch dialect params promise) := by
  refine (Action.Mirrors.ofExcept _).bind fun bound => ?_
  refine (executes.query bound).bind fun rows => ?_
  exact (Action.Mirrors.ofExcept _).bind fun _ => .pure rows

theorem mirrors_query [RowShape α] (prepared : Prepared) :
    Action.Mirrors (viewed cache executor) (query prepared : Step σ ξ (List α)) (query prepared) := by
  refine .get_bind fun catalog => ?_
  have fetches := (mirrors_fetch executes prepared.statement catalog.schema.dialect prepared.params
    .any).bind fun rows => .ofExcept (rows.mapM (readRow : Row → Except StorageFault α))
  refine (mirrors_onExecutor fetches).bind fun items => ?_
  exact (mirrors_report _).bind fun _ => .pure items

theorem mirrors_queryPage [RowShape α] (prepared : Prepared) :
    Action.Mirrors (viewed cache executor) (queryPage prepared : Step σ ξ (Page α))
      (queryPage prepared) := by
  refine .get_bind fun catalog => ?_
  have fetches := (mirrors_fetch executes prepared.statement catalog.schema.dialect prepared.params
    .any).bind fun rows =>
      .ofExcept ((Page.ofRows rows : Except RowFlaw (Page α)).mapError StorageFault.rowShape)
  refine (mirrors_onExecutor fetches).bind fun page => ?_
  exact (mirrors_report _).bind fun _ => .pure page

theorem mirrors_write (prepared : Prepared) :
    Action.Mirrors (viewed cache executor) (write prepared) (write prepared) := by
  refine .get_bind fun catalog => ?_
  have runs : Action.Mirrors executor
      (prepared.statement.run catalog.schema.dialect prepared.params)
      (prepared.statement.run catalog.schema.dialect prepared.params) :=
    (Action.Mirrors.ofExcept _).bind fun bound => executes.execute bound
  refine (mirrors_onExecutor runs).bind fun affected => ?_
  exact (mirrors_report _).bind fun _ => .pure affected

end Executing

variable [IdCache σ] [IdCache σ'] (views : IdCache.View cache)

section Asking

include views

theorem mirrors_compileFilter (filter : Filter) : Action.Mirrors (viewed cache executor)
    (compileFilter filter) (compileFilter filter) := by
  refine (mirrors_cache (filter.mirrors_compile views)).bind fun compiled => ?_
  refine (mirrors_report _).bind fun _ => ?_
  exact (mirrors_report _).bind fun _ => .pure compiled

theorem mirrors_recordAll (records : List StoredTag) : Action.Mirrors (viewed cache executor)
    (recordAll records) (recordAll records) := by
  refine .foldlM (fun first record => ?_) none records
  refine (mirrors_cache (views.record _ _)).attempt.bind fun result => ?_
  cases result with
  | ok _ => exact .pure _
  | error fault => exact .pure _

end Asking

section Requests

variable [Executor ξ] [Executor ξ'] (executes : Executor.View executor)

include views executes

theorem mirrors_loadCache :
    Action.Mirrors (viewed cache executor) (loadCache : Step σ ξ Nat) loadCache := by
  refine .get_bind fun catalog => ?_
  refine (mirrors_query executes _).bind fun records => ?_
  refine (mirrors_cache ((views.load _).mapFault Failure.ofCache)).bind fun _ => ?_
  exact (mirrors_report _).bind fun _ => .pure _

theorem mirrors_createTags (drafts : List TagDraft) : Action.Mirrors (viewed cache executor)
    (createTags drafts : Step σ ξ (List StoredTag)) (createTags drafts) := by
  refine .get_bind fun catalog => ?_
  refine (Action.Mirrors.ofExcept _).bind fun insertion => ?_
  cases insertion with
  | none => exact .pure []
  | some prepared =>
    refine (mirrors_query executes prepared).bind fun created => ?_
    refine (mirrors_recordAll views created).bind fun refused => ?_
    refine (mirrors_report _).bind fun _ => ?_
    cases refused with
    | none => exact .pure created
    | some fault => exact .throw _

theorem mirrors_addTag (entity : Int64) (tag : Tag) : Action.Mirrors (viewed cache executor)
    (addTag entity tag : Step σ ξ Bool) (addTag entity tag) := by
  refine .get_bind fun catalog => ?_
  have attaches := (tag.mirrors_resolve views).bind fun id =>
    .pure (catalog.schema.attach entity id)
  refine (mirrors_cache attaches).bind fun prepared => ?_
  exact (mirrors_write executes prepared).bind fun affected => .pure _

theorem mirrors_removeTag (entity : Int64) (tag : Tag) : Action.Mirrors (viewed cache executor)
    (removeTag entity tag : Step σ ξ Bool) (removeTag entity tag) := by
  refine .get_bind fun catalog => ?_
  have detaches := (tag.mirrors_resolve views).bind fun id =>
    .pure (catalog.schema.detach entity id)
  refine (mirrors_cache detaches).attempt.bind fun result => ?_
  cases result with
  | ok prepared => exact (mirrors_write executes prepared).bind fun affected => .pure _
  | error failure =>
    dsimp only
    split
    · exact .pure false
    · exact .throw failure

theorem mirrors_attachTag (entity : Int64) (raw : String) (type : TagKind) :
    Action.Mirrors (viewed cache executor) (attachTag entity raw type : Step σ ξ Bool)
      (attachTag entity raw type) := by
  have added := mirrors_addTag views executes entity (Tag.parse raw)
  refine (mirrors_cache (views.lookup _)).attempt.bind fun known => ?_
  cases known with
  | ok id => exact added
  | error fault =>
    cases fault with
    | notFound signature =>
      exact (mirrors_createTags views executes _).discard.bind fun _ => added
    | unavailable reason => exact (Action.Mirrors.throw _).bind fun _ => added
    | notReady => exact (Action.Mirrors.throw _).bind fun _ => added
    | invalidEntry key value => exact (Action.Mirrors.throw _).bind fun _ => added

theorem mirrors_step (request : Request) : Action.Mirrors (viewed cache executor)
    (request.step : Step σ ξ request.Answer) request.step := by
  cases request with
  | command command =>
    cases command with
    | loadCache => exact mirrors_loadCache views executes
    | createTags drafts => exact mirrors_createTags views executes drafts
    | addTag entity tag => exact mirrors_addTag views executes entity tag
    | removeTag entity tag => exact mirrors_removeTag views executes entity tag
    | attachTag entity raw type => exact mirrors_attachTag views executes entity raw type
  | listEntities shape filter window =>
    refine (mirrors_compileFilter views filter).bind fun compiled => ?_
    exact .get_bind fun catalog => mirrors_queryPage executes _
  | listTags search window => exact .get_bind fun catalog => mirrors_queryPage executes _
  | entityTags entity => exact .get_bind fun catalog => mirrors_query executes _

end Requests

/-- The answers to requests one after another, and the catalog after them. -/
def answerAll [Executor ξ] (catalog : Catalog σ ξ) :
    List Request → List ((request : Request) × Except Failure request.Answer) × Catalog σ ξ
  | [] => ([], catalog)
  | request :: rest =>
    let ended := request.step.runFrom catalog
    let later := ended.2.answerAll rest
    (⟨request, ended.1⟩ :: later.1, later.2)

section Runs

variable [Executor ξ]

/-- Requests are answered alike over parts that look alike, and the same is reported. -/
theorem answerAll_viewed [Executor ξ'] (views : IdCache.View cache)
    (executes : Executor.View executor) (catalog : Catalog σ ξ) (requests : List Request) :
    (catalog.viewed cache executor).answerAll requests =
      ((catalog.answerAll requests).1, (catalog.answerAll requests).2.viewed cache executor) := by
  induction requests generalizing catalog with
  | nil => rfl
  | cons request rest ih =>
    rw [answerAll, mirrors_step views executes request catalog]
    dsimp only
    rw [ih, answerAll]

/-- Noting the calls of the cache and of the executor changes nothing of what is answered. -/
theorem answerAll_observed (catalog : Catalog (ObservedCache σ) (Observed ξ))
    (requests : List Request) :
    (catalog.viewed ObservedCache.cache Observed.executor).answerAll requests =
      ((catalog.answerAll requests).1,
        (catalog.answerAll requests).2.viewed ObservedCache.cache Observed.executor) :=
  answerAll_viewed (ObservedCache.view σ) (Observed.view ξ) catalog requests

/-- A catalog answers the same whether its cache is in the process or in a store. -/
theorem answerAll_shared (keyStart : String) (catalog : Catalog ResidentCache ξ)
    (requests : List Request) :
    (catalog.viewed (ResidentCache.shared keyStart) id).answerAll requests =
      ((catalog.answerAll requests).1,
        (catalog.answerAll requests).2.viewed (ResidentCache.shared keyStart) id) :=
  answerAll_viewed (ResidentCache.view_shared keyStart) (.refl ξ) catalog requests

/-- The requests that are accounted for have these answers. -/
theorem attendAll_eq_answerAll (catalog : Catalog σ (Observed ξ)) (requests : List Request) :
    ((catalog.attendAll requests).1.map fun served => ⟨served.request, served.answer⟩,
      (catalog.attendAll requests).2) = catalog.answerAll requests := by
  induction requests generalizing catalog with
  | nil => rfl
  | cons request rest ih =>
    rw [attendAll, answerAll, ← ih]
    rfl

end Runs

end Catalog

end TagQuery
