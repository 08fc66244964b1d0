import TagQuery.Catalog.Operations
import TagQuery.Proofs.Action.Outcome
import TagQuery.Proofs.Catalog.Run
import TagQuery.Proofs.Executor.Promises
import TagQuery.Proofs.Listing.Changes

/-! What every call of a catalog can come to: one relation for each kind of call, with a case
for each way it ends, and that the call ends in one of them. -/

namespace TagQuery.Catalog

variable {σ ξ α : Type}

/-- The catalog after its executor failed. -/
def faulted (catalog : Catalog σ ξ) (executor : ξ) : Catalog σ ξ :=
  { catalog with executor, events := catalog.events ++ [.storageFault] }

/-- Offer records to a cache, every one even after a fault, and keep the first fault. -/
def offerAll [IdCache σ] (records : List StoredTag) (cache : σ) : Option CacheFault × σ :=
  records.foldl (fun (first, cache) record =>
    match (IdCache.record record.signature record.id).runFrom cache with
    | (.ok (), after) => (first, after)
    | (.error fault, after) => (first.or (some fault), after)) (none, cache)

/-- The last of the records is offered to what the others left. -/
theorem offerAll_append_singleton [IdCache σ] (earlier : List StoredTag)
    (record : StoredTag) (cache : σ) :
    offerAll (earlier ++ [record]) cache =
      let before := offerAll earlier cache
      let ran := (IdCache.record record.signature record.id).runFrom before.2
      (before.1.or (match ran.1 with | .ok () => none | .error fault => some fault), ran.2) := by
  unfold offerAll
  rw [List.foldl_append]
  generalize earlier.foldl _ _ = before
  obtain ⟨first, middle⟩ := before
  rw [List.foldl_cons, List.foldl_nil]
  dsimp only
  rcases (IdCache.record record.signature record.id).runFrom middle with ⟨fault | _, after⟩
  · rfl
  · rw [Option.or_none]

section Executing

variable [Executor ξ] (catalog : Catalog σ ξ) (prepared : Prepared)

/-- The ends of a query whose rows are read in one way. -/
inductive Queried (read : List Row → Except StorageFault α) (size : α → Nat) :
    Except Failure α × Catalog σ ξ → Prop
  | unbound {fault : StorageFault} :
    prepared.statement.bind catalog.schema.dialect prepared.params = .error fault →
      Queried read size (.error (.ofStorage fault), catalog.faulted catalog.executor)
  | failed {bound : PositionalStatement} {fault : StorageFault} {executor : ξ} :
    prepared.Binds catalog.schema.dialect bound →
    (Executor.query bound).runFrom catalog.executor = (.error fault, executor) →
      Queried read size (.error (.ofStorage fault), catalog.faulted executor)
  | misread {bound : PositionalStatement} {rows : List Row} {fault : StorageFault} {executor : ξ} :
    prepared.Binds catalog.schema.dialect bound →
    (Executor.query bound).runFrom catalog.executor = (.ok rows, executor) →
    read rows = .error fault →
      Queried read size (.error (.ofStorage fault), catalog.faulted executor)
  | answered {bound : PositionalStatement} {rows : List Row} {answer : α} {executor : ξ} :
    prepared.Binds catalog.schema.dialect bound →
    (Executor.query bound).runFrom catalog.executor = (.ok rows, executor) →
    read rows = .ok answer →
      Queried read size (.ok answer, { catalog with
        executor, events := catalog.events ++ [.queried (amount (size answer))] })

/-- The ends of a write. -/
inductive Written : Except Failure UInt64 × Catalog σ ξ → Prop
  | unbound {fault : StorageFault} :
    prepared.statement.bind catalog.schema.dialect prepared.params = .error fault →
      Written (.error (.ofStorage fault), catalog.faulted catalog.executor)
  | failed {bound : PositionalStatement} {fault : StorageFault} {executor : ξ} :
    prepared.Binds catalog.schema.dialect bound →
    (Executor.execute bound).runFrom catalog.executor = (.error fault, executor) →
      Written (.error (.ofStorage fault), catalog.faulted executor)
  | done {bound : PositionalStatement} {count : UInt64} {executor : ξ} :
    prepared.Binds catalog.schema.dialect bound →
    (Executor.execute bound).runFrom catalog.executor = (.ok count, executor) →
      Written (.ok count, { catalog with
        executor, events := catalog.events ++ [.wrote count] })

/-- A query fetches its rows, reads them and reports what it read. -/
private theorem queried_of_fetch (read : List Row → Except StorageFault α) (size : α → Nat) :
    Queried catalog prepared read size ((onExecutor (prepared.statement.fetch
        catalog.schema.dialect prepared.params .any >>= fun rows => .ofExcept (read rows)) >>=
      fun answer => (report (.queried (amount (size answer))) >>= fun _ => pure answer :
        Step σ ξ α)).runFrom catalog) := by
  rw [Action.runFrom_bind, runFrom_onExecutor, Action.runFrom_bind]
  cases binds : prepared.statement.bind catalog.schema.dialect prepared.params with
  | error fault =>
    rw [Statement.runFrom_fetch_of_unbound binds]
    exact .unbound binds
  | ok bound =>
    rcases ran : (Executor.query bound).runFrom catalog.executor with ⟨fault | rows, executor⟩
    · rw [Statement.runFrom_fetch_of_failed binds ran]
      exact .failed binds ran
    · rw [Statement.runFrom_fetch_of_answered binds ran]
      simp only [RowPromise.check_any, Except.map, Action.runFrom_ofExcept]
      cases reads : read rows with
      | error fault => exact .misread binds ran reads
      | ok answer => exact .answered binds ran reads

theorem queried [RowShape α] : Queried catalog prepared (List.mapM readRow) List.length
    ((query prepared : Step σ ξ (List α)).runFrom catalog) := by
  unfold query
  rw [Action.runFrom_bind_of_ok (Action.runFrom_get catalog)]
  exact queried_of_fetch catalog prepared (List.mapM readRow) List.length

/-- What a query that is bound ends in, by what the executor answers. -/
theorem Queried.eq_of_binds {catalog : Catalog σ ξ} {prepared : Prepared}
    {read : List Row → Except StorageFault α} {size : α → Nat}
    {ended : Except Failure α × Catalog σ ξ} {bound : PositionalStatement}
    (queried : catalog.Queried prepared read size ended)
    (binds : prepared.Binds catalog.schema.dialect bound) :
    ended = match (Executor.query bound).runFrom catalog.executor with
      | (.error fault, executor) => (.error (.ofStorage fault), catalog.faulted executor)
      | (.ok rows, executor) =>
        match read rows with
        | .error fault => (.error (.ofStorage fault), catalog.faulted executor)
        | .ok answer => (.ok answer, { catalog with
            executor, events := catalog.events ++ [.queried (amount (size answer))] }) := by
  cases queried with
  | unbound unbinds =>
    rw [Prepared.Binds, unbinds] at binds
    cases binds
  | failed binds' ran =>
    obtain rfl := Except.ok.inj (binds.symm.trans binds')
    rw [ran]
  | misread binds' ran reads =>
    obtain rfl := Except.ok.inj (binds.symm.trans binds')
    rw [ran]
    dsimp only
    rw [reads]
  | answered binds' ran reads =>
    obtain rfl := Except.ok.inj (binds.symm.trans binds')
    rw [ran]
    dsimp only
    rw [reads]

theorem queried_page [RowShape α] :
    Queried catalog prepared (fun rows => (Page.ofRows rows).mapError .rowShape)
      (fun page => page.items.length)
      ((queryPage prepared : Step σ ξ (Page α)).runFrom catalog) := by
  unfold queryPage
  rw [Action.runFrom_bind_of_ok (Action.runFrom_get catalog)]
  exact queried_of_fetch catalog prepared (fun rows => (Page.ofRows rows).mapError .rowShape)
    fun page => page.items.length

theorem written : Written catalog prepared ((write prepared).runFrom catalog) := by
  unfold write
  rw [Action.runFrom_bind_of_ok (Action.runFrom_get catalog), Action.runFrom_bind,
    runFrom_onExecutor, Statement.run, Action.runFrom_bind, Action.runFrom_ofExcept]
  cases binds : prepared.statement.bind catalog.schema.dialect prepared.params with
  | error fault => exact .unbound binds
  | ok bound =>
    dsimp only
    rcases ran : (Executor.execute bound).runFrom catalog.executor with ⟨fault | count, executor⟩
    · exact .failed binds ran
    · exact .done binds ran

/-- What a write that is bound ends in, by what the executor answers. -/
theorem Written.eq_of_binds {catalog : Catalog σ ξ} {prepared : Prepared}
    {ended : Except Failure UInt64 × Catalog σ ξ} {bound : PositionalStatement}
    (written : catalog.Written prepared ended)
    (binds : prepared.Binds catalog.schema.dialect bound) :
    ended = match (Executor.execute bound).runFrom catalog.executor with
      | (.error fault, executor) => (.error (.ofStorage fault), catalog.faulted executor)
      | (.ok count, executor) => (.ok count, { catalog with
          executor, events := catalog.events ++ [.wrote count] }) := by
  cases written with
  | unbound unbinds =>
    rw [Prepared.Binds, unbinds] at binds
    cases binds
  | failed binds' ran =>
    obtain rfl := Except.ok.inj (binds.symm.trans binds')
    rw [ran]
  | done binds' ran =>
    obtain rfl := Except.ok.inj (binds.symm.trans binds')
    rw [ran]

end Executing

variable [IdCache σ] [Executor ξ] (catalog : Catalog σ ξ)

/-- The ends of loading the cache. -/
inductive Loaded : Except Failure Nat × Catalog σ ξ → Prop
  | unread {failure : Failure} {after : Catalog σ ξ} :
    Queried (α := List StoredTag) catalog catalog.schema.listAllTags (List.mapM readRow)
      List.length (.error failure, after) → Loaded (.error failure, after)
  | refused {records : List StoredTag} {middle : Catalog σ ξ} {fault : CacheFault} {cache : σ} :
    Queried catalog catalog.schema.listAllTags (List.mapM readRow) List.length
      (.ok records, middle) →
    (IdCache.load (records.map fun record => (record.signature, record.id))).runFrom middle.cache =
      (.error fault, cache) →
      Loaded (.error (.ofCache fault), { middle with cache })
  | loaded {records : List StoredTag} {middle : Catalog σ ξ} {cache : σ} :
    Queried catalog catalog.schema.listAllTags (List.mapM readRow) List.length
      (.ok records, middle) →
    (IdCache.load (records.map fun record => (record.signature, record.id))).runFrom middle.cache =
      (.ok (), cache) →
      Loaded (.ok records.length, { middle with
        cache, events := middle.events ++ [.cacheLoaded (amount records.length)] })

theorem loaded : Loaded catalog (loadCache.runFrom catalog) := by
  have reads := queried (α := StoredTag) catalog catalog.schema.listAllTags
  unfold loadCache
  rw [Action.runFrom_bind_of_ok (Action.runFrom_get catalog), Action.runFrom_bind]
  rcases ran : (query catalog.schema.listAllTags : Step σ ξ (List StoredTag)).runFrom catalog with
    ⟨failure | records, middle⟩
  · rw [ran] at reads
    exact .unread reads
  · rw [ran] at reads
    dsimp only
    rw [Action.runFrom_bind, onCache, withCache, Action.runFrom_onPart, Action.runFrom_mapFault]
    cases given : (IdCache.load (records.map fun record => (record.signature, record.id))).runFrom
      middle.cache with
    | mk result cache =>
      cases result with
      | error fault => exact .refused reads given
      | ok =>
        have ends := Loaded.loaded reads given
        exact ends

/-- The ends of compiling a filter and listing what it admits. -/
inductive Listed [RowShape α] (filter : Filter) (window : PageWindow) :
    Except Failure (Page α) × Catalog σ ξ → Prop
  | uncompiled {failure : Failure} {cache : σ} :
    filter.compile.runFrom catalog.cache = (.error failure, cache) →
      Listed filter window (.error failure, { catalog with cache })
  | compiled {compiled : CompiledFilter} {cache : σ} {events : List Event}
    {ended : Except Failure (Page α) × Catalog σ ξ} :
    filter.compile.runFrom catalog.cache = (.ok compiled, cache) →
    Queried { catalog with cache, events } (catalog.schema.listEntities compiled window)
      (fun rows => (Page.ofRows rows).mapError .rowShape) (fun page => page.items.length) ended →
      Listed filter window ended

theorem listed [RowShape α] (filter : Filter) (window : PageWindow) :
    Listed catalog filter window
      ((listEntities filter window : Step σ ξ (Page α)).runFrom catalog) := by
  unfold listEntities compileFilter
  rw [Action.runFrom_bind, Action.runFrom_bind, withCache, Action.runFrom_onPart]
  rcases compiles : filter.compile.runFrom catalog.cache with ⟨failure | compiled, cache⟩
  · exact .uncompiled compiles
  · dsimp only
    rw [Action.runFrom_bind_of_ok (runFrom_report _ _),
      Action.runFrom_bind_of_ok (runFrom_report _ _), Action.runFrom_pure]
    dsimp only
    rw [Action.runFrom_bind_of_ok (Action.runFrom_get _)]
    exact .compiled compiles (queried_page _ _)

omit [IdCache σ] in
theorem queried_listTags (search : Tag) (window : PageWindow) :
    Queried catalog (catalog.schema.listTags search window)
      (fun rows => (Page.ofRows rows).mapError .rowShape) (fun page => page.items.length)
      ((listTags search window).runFrom catalog) := by
  unfold listTags
  rw [Action.runFrom_bind_of_ok (Action.runFrom_get catalog)]
  exact queried_page catalog _

omit [IdCache σ] in
theorem queried_entityTags (entity : Int64) :
    Queried catalog (catalog.schema.listEntityTags entity) (List.mapM readRow) List.length
      ((entityTags entity).runFrom catalog) := by
  unfold entityTags
  rw [Action.runFrom_bind_of_ok (Action.runFrom_get catalog)]
  exact queried catalog _

/-- The ends of asking for the identifier of a tag. -/
inductive Resolved (tag : Tag) : Except Failure TagId × Catalog σ ξ → Prop
  | invalid {fault : QueryFault} : tag.check = .error fault →
      Resolved tag (.error (.ofQuery fault), catalog)
  | unknown {fault : CacheFault} {cache : σ} : tag.check = .ok () →
    (IdCache.lookup tag.signature).runFrom catalog.cache = (.error fault, cache) →
      Resolved tag (.error (.ofCache fault), { catalog with cache })
  | known {id : TagId} {cache : σ} : tag.check = .ok () →
    (IdCache.lookup tag.signature).runFrom catalog.cache = (.ok id, cache) →
      Resolved tag (.ok id, { catalog with cache })

omit [Executor ξ] in
theorem resolved (tag : Tag) :
    Resolved catalog tag ((withCache tag.resolve : Step σ ξ TagId).runFrom catalog) := by
  rw [withCache, Action.runFrom_onPart, Tag.resolve, Action.runFrom_bind, Action.runFrom_ofExcept]
  cases checked : tag.check with
  | error fault => exact .invalid checked
  | ok =>
    dsimp only [Except.mapError]
    rw [Action.runFrom_mapFault]
    rcases asked : (IdCache.lookup tag.signature).runFrom catalog.cache with ⟨fault | id, cache⟩
    · exact .unknown checked asked
    · exact .known checked asked

/-- The ends of attaching a tag. -/
inductive Added (entity : Int64) (tag : Tag) : Except Failure Bool × Catalog σ ξ → Prop
  | unresolved {failure : Failure} {after : Catalog σ ξ} :
    Resolved catalog tag (.error failure, after) → Added entity tag (.error failure, after)
  | unwritten {id : TagId} {middle after : Catalog σ ξ} {failure : Failure} :
    Resolved catalog tag (.ok id, middle) →
    Written middle (catalog.schema.attach entity id) (.error failure, after) →
      Added entity tag (.error failure, after)
  | written {id : TagId} {middle after : Catalog σ ξ} {count : UInt64} :
    Resolved catalog tag (.ok id, middle) →
    Written middle (catalog.schema.attach entity id) (.ok count, after) →
      Added entity tag (.ok (0 < count), after)

omit [IdCache σ] [Executor ξ] in
private theorem runFrom_withCache_map {β : Type} (action : Action Failure σ α) (change : α → β) :
    (withCache (action >>= fun value => pure (change value)) : Step σ ξ β).runFrom catalog =
      (((withCache action : Step σ ξ α).runFrom catalog).1.map change,
        ((withCache action : Step σ ξ α).runFrom catalog).2) := by
  simp only [withCache, Action.runFrom_onPart, Action.runFrom_bind]
  rcases action.runFrom catalog.cache with ⟨failure | value, cache⟩ <;> rfl

theorem added (entity : Int64) (tag : Tag) :
    Added catalog entity tag ((addTag entity tag).runFrom catalog) := by
  have asks := resolved catalog tag
  unfold addTag Schema.attachKnown
  rw [Action.runFrom_bind_of_ok (Action.runFrom_get catalog), Action.runFrom_bind,
    runFrom_withCache_map]
  rcases ran : (withCache tag.resolve : Step σ ξ TagId).runFrom catalog with ⟨failure | id, middle⟩
  · rw [ran] at asks
    exact .unresolved asks
  · rw [ran] at asks
    have writes := written middle (catalog.schema.attach entity id)
    dsimp only [Except.map]
    rw [Action.runFrom_bind]
    rcases wrote : (write (catalog.schema.attach entity id)).runFrom middle with
      ⟨failure | count, after⟩
    · rw [wrote] at writes
      exact .unwritten asks writes
    · rw [wrote] at writes
      exact .written asks writes

/-- The ends of detaching a tag. -/
inductive Removed (entity : Int64) (tag : Tag) : Except Failure Bool × Catalog σ ξ → Prop
  | unresolved {failure : Failure} {after : Catalog σ ξ} :
    Resolved catalog tag (.error failure, after) → failure.isUnknownTag = false →
      Removed entity tag (.error failure, after)
  | unknown {failure : Failure} {after : Catalog σ ξ} :
    Resolved catalog tag (.error failure, after) → failure.isUnknownTag = true →
      Removed entity tag (.ok false, after)
  | unwritten {id : TagId} {middle after : Catalog σ ξ} {failure : Failure} :
    Resolved catalog tag (.ok id, middle) →
    Written middle (catalog.schema.detach entity id) (.error failure, after) →
      Removed entity tag (.error failure, after)
  | written {id : TagId} {middle after : Catalog σ ξ} {count : UInt64} :
    Resolved catalog tag (.ok id, middle) →
    Written middle (catalog.schema.detach entity id) (.ok count, after) →
      Removed entity tag (.ok (0 < count), after)

theorem removed (entity : Int64) (tag : Tag) :
    Removed catalog entity tag ((removeTag entity tag).runFrom catalog) := by
  have asks := resolved catalog tag
  unfold removeTag Schema.detachKnown
  rw [Action.runFrom_bind_of_ok (Action.runFrom_get catalog), Action.runFrom_bind,
    Action.runFrom_attempt, runFrom_withCache_map]
  rcases ran : (withCache tag.resolve : Step σ ξ TagId).runFrom catalog with ⟨failure | id, middle⟩
  · rw [ran] at asks
    dsimp only [Except.map]
    cases known : failure.isUnknownTag
    · exact .unresolved asks known
    · exact .unknown asks known
  · rw [ran] at asks
    have writes := written middle (catalog.schema.detach entity id)
    dsimp only [Except.map]
    rw [Action.runFrom_bind]
    rcases wrote : (write (catalog.schema.detach entity id)).runFrom middle with
      ⟨failure | count, after⟩
    · rw [wrote] at writes
      exact .unwritten asks writes
    · rw [wrote] at writes
      exact .written asks writes

omit [Executor ξ] in
theorem runFrom_recordAll (records : List StoredTag) :
    (recordAll records : Step σ ξ (Option CacheFault)).runFrom catalog =
      (.ok (offerAll records catalog.cache).1,
        { catalog with cache := (offerAll records catalog.cache).2 }) := by
  unfold recordAll offerAll
  generalize (none : Option CacheFault) = first
  induction records generalizing catalog first with
  | nil => rfl
  | cons record rest ih =>
    rw [List.foldlM_cons, List.foldl_cons, Action.runFrom_bind, Action.runFrom_bind,
      Action.runFrom_attempt, Action.runFrom_onPart]
    dsimp only
    rcases (IdCache.record record.signature record.id).runFrom catalog.cache with
      ⟨fault | _, cache⟩
    · exact ih { catalog with cache } (first.or (some fault))
    · exact ih { catalog with cache } first

/-- The ends of storing new tags. -/
inductive Created (drafts : List TagDraft) : Except Failure (List StoredTag) × Catalog σ ξ → Prop
  | invalid {fault : QueryFault} : catalog.schema.createTags drafts = .error fault →
      Created drafts (.error (.ofQuery fault), catalog)
  | nothing : drafts = [] → Created drafts (.ok [], catalog)
  | unstored {failure : Failure} {after : Catalog σ ξ} :
    (∀ draft ∈ drafts, draft.tag.check = .ok ()) →
    Queried (α := List StoredTag) catalog
      (catalog.schema.insertTags (Schema.distinctTags drafts)) (List.mapM readRow) List.length
      (.error failure, after) →
      Created drafts (.error failure, after)
  | offered {created : List StoredTag} {middle : Catalog σ ξ} :
    (∀ draft ∈ drafts, draft.tag.check = .ok ()) →
    Queried catalog (catalog.schema.insertTags (Schema.distinctTags drafts)) (List.mapM readRow)
      List.length (.ok created, middle) →
      Created drafts
        ((offerAll created middle.cache).1.elim (.ok created) fun fault =>
          .error (.ofCache fault), { middle with
        cache := (offerAll created middle.cache).2
        events := middle.events ++ [.tagsCreated (amount created.length)] })

/-- Only valid tags are stored. -/
theorem Created.valid {catalog after : Catalog σ ξ} {drafts : List TagDraft}
    {records : List StoredTag} (created : catalog.Created drafts (.ok records, after)) :
    ∀ draft ∈ drafts, draft.tag.check = .ok () := by
  generalize ended_eq : (Except.ok records, after) = ended at created
  cases created with
  | invalid _ => cases ended_eq
  | nothing empty => simp [empty]
  | unstored valid _ => exact valid
  | offered valid _ => exact valid

/-- A tag that fails the check is not created. -/
theorem Created.of_refused {catalog : Catalog σ ξ} {draft : TagDraft} {fault : QueryFault}
    {ended : Except Failure (List StoredTag) × Catalog σ ξ}
    (created : catalog.Created [draft] ended)
    (checked : draft.tag.check = .error fault) : ended = (.error (.ofQuery fault), catalog) := by
  have refuses : catalog.schema.createTags [draft] = .error fault := by
    unfold Schema.createTags
    change ((draft.tag.check >>= fun _ => pure PUnit.unit) >>= _) = _
    rw [checked]
    rfl
  have invalid (valid : ∀ new ∈ [draft], new.tag.check = .ok ()) : False := by
    rw [valid draft (List.mem_singleton_self _)] at checked
    cases checked
  cases created with
  | invalid refused =>
    rw [refuses] at refused
    cases refused
    rfl
  | nothing empty => cases empty
  | unstored valid _ => exact (invalid valid).elim
  | offered valid _ => exact (invalid valid).elim

theorem created (drafts : List TagDraft) :
    Created catalog drafts ((createTags drafts).runFrom catalog) := by
  unfold createTags
  rw [Action.runFrom_bind_of_ok (Action.runFrom_get catalog), Action.runFrom_bind,
    Action.runFrom_ofExcept]
  cases making : catalog.schema.createTags drafts with
  | error fault => exact .invalid making
  | ok made =>
    have checked : ∀ draft ∈ drafts, draft.tag.check = .ok () := by
      obtain ⟨_, passed, _⟩ := Outcome.of_bind_ok making
      exact Outcome.forM_ok_iff.mp passed
    rw [Schema.createTags_of_valid checked, Except.ok.injEq] at making
    subst making
    by_cases empty : drafts = []
    · rw [if_pos empty]
      exact .nothing empty
    · rw [if_neg empty]
      have inserts := queried (α := StoredTag) catalog
        (catalog.schema.insertTags (Schema.distinctTags drafts))
      dsimp only [Except.mapError]
      rw [Action.runFrom_bind]
      rcases ran : (query (catalog.schema.insertTags (Schema.distinctTags drafts)) :
        Step σ ξ (List StoredTag)).runFrom catalog with ⟨failure | created, middle⟩
      · rw [ran] at inserts
        exact .unstored checked inserts
      · rw [ran] at inserts
        have ends := Created.offered checked inserts
        dsimp only
        rw [Action.runFrom_bind_of_ok (runFrom_recordAll middle created),
          Action.runFrom_bind_of_ok (runFrom_report _ _)]
        cases refused : (offerAll created middle.cache).1 with
        | none =>
          rw [refused] at ends
          exact ends
        | some fault =>
          rw [refused] at ends
          exact ends

/-- The ends of attaching the tag of a raw text. -/
inductive Attached (entity : Int64) (raw : String) (type : TagKind) :
    Except Failure Bool × Catalog σ ξ → Prop
  | known {id : TagId} {cache : σ} {ended : Except Failure Bool × Catalog σ ξ} :
    (IdCache.lookup (Tag.parse raw).signature).runFrom catalog.cache = (.ok id, cache) →
    Added { catalog with cache } entity (Tag.parse raw) ended → Attached entity raw type ended
  | refused {fault : CacheFault} {cache : σ} :
    (IdCache.lookup (Tag.parse raw).signature).runFrom catalog.cache = (.error fault, cache) →
    fault.isNotFound = false →
      Attached entity raw type (.error (.ofCache fault), { catalog with cache })
  | uncreated {name : Signature} {cache : σ} {failure : Failure} {after : Catalog σ ξ} :
    (IdCache.lookup (Tag.parse raw).signature).runFrom catalog.cache =
      (.error (.notFound name), cache) →
    Created { catalog with cache } [⟨Tag.parse raw, type⟩] (.error failure, after) →
      Attached entity raw type (.error failure, after)
  | created {name : Signature} {cache : σ} {records : List StoredTag} {middle : Catalog σ ξ}
    {ended : Except Failure Bool × Catalog σ ξ} :
    (IdCache.lookup (Tag.parse raw).signature).runFrom catalog.cache =
      (.error (.notFound name), cache) →
    Created { catalog with cache } [⟨Tag.parse raw, type⟩] (.ok records, middle) →
    Added middle entity (Tag.parse raw) ended → Attached entity raw type ended

theorem attached (entity : Int64) (raw : String) (type : TagKind) :
    Attached catalog entity raw type ((attachTag entity raw type).runFrom catalog) := by
  unfold attachTag
  rw [Action.runFrom_bind, Action.runFrom_attempt, Action.runFrom_onPart]
  rcases asked : (IdCache.lookup (Tag.parse raw).signature).runFrom catalog.cache with
    ⟨fault | id, cache⟩
  · cases fault with
    | notFound name =>
      have creates := Catalog.created { catalog with cache } [⟨Tag.parse raw, type⟩]
      dsimp only
      rw [Action.runFrom_bind, Action.runFrom_discard]
      rcases ran : (createTags [⟨Tag.parse raw, type⟩]).runFrom { catalog with cache } with
        ⟨failure | records, middle⟩
      · rw [ran] at creates
        exact .uncreated asked creates
      · rw [ran] at creates
        exact .created asked creates (added middle entity (Tag.parse raw))
    | unavailable reason => exact .refused asked rfl
    | notReady => exact .refused asked rfl
    | invalidEntry key value => exact .refused asked rfl
  · exact .known asked (added { catalog with cache } entity (Tag.parse raw))

end TagQuery.Catalog
