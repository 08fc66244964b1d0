import TagQuery.Proofs.Catalog.Command
import TagQuery.Proofs.Catalog.Ledger
import TagQuery.Proofs.Catalog.Outcomes
import TagQuery.Proofs.Catalog.Sound
import TagQuery.Proofs.IdCache.Truthful
import TagQuery.Proofs.List.Related
import TagQuery.Proofs.Listing.Identifiers

/-! Where the identifiers in statements come from: whatever fails, a catalog on a shared store
has it run nothing but what its callers asked for, with the identifiers of the tags they named. -/

namespace TagQuery

/-- The calls that a command makes of a store with some contents. -/
inductive Command.Makes (schema : Schema) (contents : Contents) : Command → ExecutorCall → Prop
  | loadCache {bound : PositionalStatement} : schema.listAllTags.Binds schema.dialect bound →
    Makes schema contents .loadCache (.query bound)
  | createTags {drafts : List TagDraft} {bound : PositionalStatement} :
    (∀ draft ∈ drafts, draft.tag.check = .ok ()) →
    (schema.insertTags (Schema.distinctTags drafts)).Binds schema.dialect bound →
      Makes schema contents (.createTags drafts) (.query bound)
  | addTag {entity : Int64} {tag : Tag} {id : TagId} {bound : PositionalStatement} :
    contents.Identifies tag id → (schema.attach entity id).Binds schema.dialect bound →
      Makes schema contents (.addTag entity tag) (.execute bound)
  | removeTag {entity : Int64} {tag : Tag} {id : TagId} {bound : PositionalStatement} :
    contents.Identifies tag id → (schema.detach entity id).Binds schema.dialect bound →
      Makes schema contents (.removeTag entity tag) (.execute bound)
  | attachNew {entity : Int64} {raw : String} {type : TagKind} {call : ExecutorCall} :
    Makes schema contents (.createTags [⟨Tag.parse raw, type⟩]) call →
      Makes schema contents (.attachTag entity raw type) call
  | attachKnown {entity : Int64} {raw : String} {type : TagKind} {call : ExecutorCall} :
    Makes schema contents (.addTag entity (Tag.parse raw)) call →
      Makes schema contents (.attachTag entity raw type) call

/-- A test for an identifier stands for a leaf that tests for the tag with it. -/
def Leaf.TestedBy (contents : Contents) (leaf : Leaf) (atom : Atom) : Prop :=
  ∀ id, atom = .carries id → ∃ tag, leaf.subject? = some tag ∧ contents.Identifies tag id

/-- The calls that a request makes of a store with some contents. -/
inductive Request.Makes (schema : Schema) (contents : Contents) : Request → ExecutorCall → Prop
  | command {command : Command} {call : ExecutorCall} : command.Makes schema contents call →
    Makes schema contents (.command command) call
  | listEntities {α : Type} {shape : RowShape α} {filter : Filter} {window : PageWindow}
    {compiled : CompiledFilter} {bound : PositionalStatement} :
    Formula.Matched (Leaf.TestedBy contents) filter compiled.predicate →
    (schema.listEntities compiled window).Binds schema.dialect bound →
      Makes schema contents (.listEntities shape filter window) (.query bound)
  | listTags {search : Tag} {window : PageWindow} {bound : PositionalStatement} :
    (schema.listTags search window).Binds schema.dialect bound →
      Makes schema contents (.listTags search window) (.query bound)
  | entityTags {entity : Int64} {bound : PositionalStatement} :
    (schema.listEntityTags entity).Binds schema.dialect bound →
      Makes schema contents (.entityTags entity) (.query bound)

/-- A command attaches a tag to an entity, whether or not it stores the tag first. -/
inductive Command.Attaches (entity : Int64) : Tag → Command → Prop
  | tag (tag : Tag) : Attaches entity tag (.addTag entity tag)
  | text (raw : String) (type : TagKind) :
    Attaches entity (Tag.parse raw) (.attachTag entity raw type)

/-- The change that a command executes: the identifier that the store has for the tag of the
command is in the text, and is read back from there. -/
inductive Command.Writes (schema : Schema) (contents : Contents) (command : Command)
    (bound : PositionalStatement) : Prop
  | attached {entity : Int64} {tag : Tag} {id : TagId} : command.Attaches entity tag →
    contents.Identifies tag id → bound = schema.attachment schema.dialect entity id →
    TagId.readAfter? (schema.attachStart schema.dialect).toList bound.sql.toList = some id →
      Writes schema contents command bound
  | detached {entity : Int64} {tag : Tag} {id : TagId} : command = .removeTag entity tag →
    contents.Identifies tag id → bound = schema.detachment schema.dialect entity id →
    TagId.readAfter? (schema.detachStart schema.dialect).toList bound.sql.toList = some id →
      Writes schema contents command bound

/-- The identifiers in the text of a call are those of tags that its request names. -/
structure Request.NamesTags (schema : Schema) (contents : Contents) (request : Request)
    (call : ExecutorCall) : Prop where
  changes : ∀ bound, call = .execute bound →
    ∃ command, request = .command command ∧ command.Writes schema contents bound
  listings : ∀ {α : Type} (shape : RowShape α) (filter : Filter) (window : PageWindow),
    request = .listEntities shape filter window → ∃ bound, call = .query bound ∧
      ∀ id ∈ TagId.readEach schema.testStart.toList bound.sql.toList,
        ∃ leaf ∈ filter.leaves, ∃ tag, leaf.subject? = some tag ∧ contents.Identifies tag id

variable {schema : Schema} {contents : Contents} {call : ExecutorCall}

theorem Command.Makes.calls {command : Command} (makes : command.Makes schema contents call) :
    schema.Calls call := by
  induction makes with
  | loadCache binds => exact .query .allTags binds
  | createTags valid binds =>
    refine .query (.newTags (fun draft member => ?_) (Schema.nodup_distinctTags _)) binds
    exact valid draft (Schema.distinctTags_subset _ member)
  | addTag _ binds => exact .execute (.attachment _ _) binds
  | removeTag _ binds => exact .execute (.detachment _ _) binds
  | attachNew _ calls => exact calls
  | attachKnown _ calls => exact calls

theorem Request.Makes.calls {request : Request} (makes : request.Makes schema contents call) :
    schema.Calls call := by
  cases makes with
  | command makes => exact makes.calls
  | listEntities _ binds => exact .query (.entities _ _) binds
  | listTags binds => exact .query (.tags _ _) binds
  | entityTags binds => exact .query (.entityTags _) binds

section Texts

variable (checked : schema.check = .ok ())
include checked

theorem Command.Makes.writes {command : Command} {bound : PositionalStatement}
    (makes : command.Makes schema contents (.execute bound)) :
    command.Writes schema contents bound := by
  have attached {command : Command} {entity : Int64} {tag : Tag} {id : TagId}
      (attaches : command.Attaches entity tag) (identified : contents.Identifies tag id)
      (binds : (schema.attach entity id).Binds schema.dialect bound) :
      command.Writes schema contents bound := by
    obtain rfl := Except.ok.inj
      (binds.symm.trans (Schema.bind_attach checked schema.dialect entity id))
    exact .attached attaches identified rfl (schema.readAfter?_attachment _ entity id)
  cases makes with
  | addTag identified binds => exact attached (.tag _) identified binds
  | @removeTag entity tag id _ identified binds =>
    obtain rfl := Except.ok.inj
      (binds.symm.trans (Schema.bind_detach checked schema.dialect entity id))
    exact .detached rfl identified rfl (schema.readAfter?_detachment _ entity id)
  | attachNew calls => cases calls
  | attachKnown calls =>
    cases calls with
    | addTag identified binds => exact attached (.text _ _) identified binds

/-- The identifiers that an executed listing tests for are those of the tags of its leaves. -/
theorem Leaf.identifies_of_readEach {filter : Filter} {window : PageWindow}
    {compiled : CompiledFilter} {bound : PositionalStatement} {id : TagId}
    (matched : Formula.Matched (Leaf.TestedBy contents) filter compiled.predicate)
    (binds : (schema.listEntities compiled window).Binds schema.dialect bound)
    (member : id ∈ TagId.readEach schema.testStart.toList bound.sql.toList) :
    ∃ leaf ∈ filter.leaves, ∃ tag, leaf.subject? = some tag ∧ contents.Identifies tag id := by
  rw [Schema.readEach_listing checked binds, List.mem_filterMap] at member
  obtain ⟨atom, inside, carried⟩ := member
  have tested : atom = .carries id := by
    cases atom <;> cases carried
    rfl
  obtain ⟨leaf, named, tests⟩ := exists_of_mem_right matched.forall₂_leaves inside
  exact ⟨leaf, named, tests id tested⟩

theorem Request.Makes.namesTags {request : Request} (makes : request.Makes schema contents call) :
    request.NamesTags schema contents call := by
  cases makes with
  | command makes =>
    refine ⟨fun bound executed => ?_, nofun⟩
    subst executed
    exact ⟨_, rfl, makes.writes checked⟩
  | listEntities matched binds =>
    refine ⟨nofun, fun _ _ _ same => ?_⟩
    cases same
    exact ⟨_, rfl, fun id => Leaf.identifies_of_readEach checked matched binds⟩
  | listTags _ => exact ⟨nofun, nofun⟩
  | entityTags _ => exact ⟨nofun, nofun⟩

end Texts

variable {σ ξ : Type} [IdCache σ] [TruthfulCache σ] [Executor ξ] {serves : Schema → Prop}

omit [TruthfulCache σ] [Executor ξ] in
/-- Whatever a cache refuses of good records, it holds nothing but good ones. -/
theorem Catalog.onlyHolds_offerAll [BoundedCache σ] {fits : Signature → TagId → Prop}
    {loaded : Bool} {records : List StoredTag} {cache : σ}
    (held : BoundedCache.OnlyHolds fits loaded cache)
    (good : ∀ record ∈ records, fits record.signature record.id) :
    BoundedCache.OnlyHolds fits loaded (offerAll records cache).2 := by
  unfold offerAll
  generalize (none : Option CacheFault) = first
  induction records generalizing cache first with
  | nil => exact held
  | cons record rest ih =>
    have kept := BoundedCache.keeps_record (good record List.mem_cons_self) cache held
    have later := fun record member => good record (List.mem_cons_of_mem _ member)
    rw [List.foldl_cons]
    dsimp only
    rcases ran : (IdCache.record record.signature record.id).runFrom cache with ⟨fault | _, after⟩
    · rw [ran] at kept
      exact ih kept later _
    · rw [ran] at kept
      exact ih kept later _

/-- A catalog on a well kept store whose cache names tags as the store does. -/
structure TagLedger.Sound (ledger : TagLedger serves ξ) (catalog : Catalog σ ξ) : Prop where
  served : serves catalog.schema
  wellKept : (ledger.contents catalog.executor).WellKept
  cached : BoundedCache.OnlyHolds (ledger.contents catalog.executor).Names false catalog.cache

/-- A sound catalog came to be from another by allowed calls. -/
structure TagLedger.Follows (ledger : TagLedger serves ξ)
    (allowed : Contents → ExecutorCall → Prop) (before after : Catalog σ ξ) : Prop where
  schema_eq : after.schema = before.schema
  led : CallsLead (fun executor => allowed (ledger.contents executor)) before.executor
    after.executor
  sound : ledger.Sound after

namespace TagLedger

variable {ledger : TagLedger serves ξ} {allowed allowed' : Contents → ExecutorCall → Prop}
  {catalog before middle after : Catalog σ ξ}

/-- A sound catalog on another cache that names tags as the store does. -/
theorem Sound.with_cache (sound : ledger.Sound catalog) {cache : σ} {events : List Event}
    (held : BoundedCache.OnlyHolds (ledger.contents catalog.executor).Names false cache) :
    ledger.Sound { catalog with cache, events } :=
  ⟨sound.served, sound.wellKept, held⟩

/-- What calls of the schema lead to has the tags of before, well kept if they were. -/
theorem advances_of_callsLead (ledger : TagLedger serves ξ) {start final : ξ}
    (served : serves schema)
    (calls : ∀ contents call, allowed contents call → schema.Calls call)
    (led : CallsLead (fun executor => allowed (ledger.contents executor)) start final) :
    (ledger.contents start).Advances (ledger.contents final) :=
  CallsLead.follows (fun start final => (ledger.contents start).Advances (ledger.contents final))
    (fun _ => .refl _) .trans
    (fun executor call allows => ledger.advances executor served (calls _ call allows)) led

namespace Follows

theorem refl (sound : ledger.Sound catalog) : ledger.Follows allowed catalog catalog :=
  ⟨rfl, .refl _, sound⟩

theorem trans (first : ledger.Follows allowed before middle)
    (second : ledger.Follows allowed middle after) : ledger.Follows allowed before after :=
  ⟨second.schema_eq.trans first.schema_eq, first.led.trans second.led, second.sound⟩

theorem mono (weaken : ∀ contents call, allowed contents call → allowed' contents call)
    (follows : ledger.Follows allowed before after) : ledger.Follows allowed' before after :=
  ⟨follows.schema_eq, follows.led.mono fun _ => weaken _, follows.sound⟩

/-- A step that the store has no part in. -/
theorem of_cache (sound : ledger.Sound catalog) {cache : σ} {events : List Event}
    (held : BoundedCache.OnlyHolds (ledger.contents catalog.executor).Names false cache) :
    ledger.Follows allowed catalog { catalog with cache, events } :=
  ⟨rfl, .refl _, sound.with_cache held⟩

private theorem of_call (sound : ledger.Sound catalog) {executor : ξ} {events : List Event}
    (calls : catalog.schema.Calls call) (allows : allowed (ledger.contents catalog.executor) call)
    (same : call.effect catalog.executor = executor) :
    ledger.Follows allowed catalog { catalog with executor, events } := by
  subst same
  have advances := ledger.advances catalog.executor sound.served calls
  exact ⟨rfl, .single allows, sound.served, advances.wellKept sound.wellKept,
    BoundedCache.onlyHolds_imp advances.names sound.cached⟩

variable {prepared : Prepared}

theorem of_queried {α : Type} {read : List Row → Except StorageFault α} {size : α → Nat}
    {ended : Except Failure α × Catalog σ ξ} (sound : ledger.Sound catalog)
    (asks : catalog.schema.Asks prepared)
    (allows : ∀ bound, prepared.Binds catalog.schema.dialect bound →
      allowed (ledger.contents catalog.executor) (.query bound))
    (queried : catalog.Queried prepared read size ended) :
    ledger.Follows allowed catalog ended.2 := by
  have asked {bound : PositionalStatement} {result : Except StorageFault (List Row)}
      {executor : ξ} {events : List Event} (binds : prepared.Binds catalog.schema.dialect bound)
      (ran : (Executor.query bound).runFrom catalog.executor = (result, executor)) :
      ledger.Follows allowed catalog { catalog with executor, events } :=
    of_call sound (.query asks binds) (allows bound binds) (congrArg Prod.snd ran)
  cases queried with
  | unbound _ => exact of_cache sound sound.cached
  | failed binds ran => exact asked binds ran
  | misread binds ran _ => exact asked binds ran
  | answered binds ran _ => exact asked binds ran

theorem of_written {ended : Except Failure UInt64 × Catalog σ ξ} (sound : ledger.Sound catalog)
    (changes : catalog.schema.Changes prepared)
    (allows : ∀ bound, prepared.Binds catalog.schema.dialect bound →
      allowed (ledger.contents catalog.executor) (.execute bound))
    (written : catalog.Written prepared ended) : ledger.Follows allowed catalog ended.2 := by
  cases written with
  | unbound _ => exact of_cache sound sound.cached
  | failed binds ran =>
    exact of_call sound (.execute changes binds) (allows _ binds) (congrArg Prod.snd ran)
  | done binds ran =>
    exact of_call sound (.execute changes binds) (allows _ binds) (congrArg Prod.snd ran)

end Follows

/-- The rows of tags that a query is answered with are stored. -/
theorem stored_of_queried {prepared : Prepared} {records : List StoredTag}
    (sound : ledger.Sound catalog) (asks : catalog.schema.AsksForTags prepared)
    (queried : catalog.Queried prepared (List.mapM readRow) List.length (.ok records, after)) :
    records ⊆ (ledger.contents after.executor).tags := by
  cases queried with
  | answered binds ran reads => exact ledger.stored sound.served asks binds ran reads

theorem cached_of_lookup (sound : ledger.Sound catalog) {signature : Signature} {cache : σ}
    {result : Except CacheFault TagId}
    (asked : (IdCache.lookup signature).runFrom catalog.cache = (result, cache)) :
    BoundedCache.OnlyHolds (ledger.contents catalog.executor).Names false cache := by
  have kept := BoundedCache.keeps_lookup _ _ signature _ sound.cached
  rwa [asked] at kept

/-- The identifier that a tag is resolved to is the store's. -/
theorem identifies_of_resolved {tag : Tag} {id : TagId} (sound : ledger.Sound catalog)
    (resolved : catalog.Resolved tag (.ok id, after)) :
    (ledger.contents after.executor).Identifies tag id := by
  cases resolved with
  | known checked asked =>
    have held := TruthfulCache.entry?_of_lookup asked
    have named := TruthfulCache.fits_of_entry? sound.cached held
    exact named.identifies sound.wellKept ((Tag.check_ok_iff tag).mp checked).2.1

namespace Follows

theorem of_lookup (sound : ledger.Sound catalog) (signature : Signature) {cache : σ}
    {result : Except CacheFault TagId}
    (asked : (IdCache.lookup signature).runFrom catalog.cache = (result, cache)) :
    ledger.Follows allowed catalog { catalog with cache } :=
  of_cache sound (cached_of_lookup sound asked)

theorem of_resolved {tag : Tag} {ended : Except Failure TagId × Catalog σ ξ}
    (sound : ledger.Sound catalog) (resolved : catalog.Resolved tag ended) :
    ledger.Follows allowed catalog ended.2 := by
  cases resolved with
  | invalid _ => exact refl sound
  | unknown _ asked => exact of_lookup sound _ asked
  | known _ asked => exact of_lookup sound _ asked

variable {entity : Int64} {tag : Tag} {ended : Except Failure Bool × Catalog σ ξ}

/-- A change with the identifier that a tag was resolved to. -/
private theorem of_change {id : TagId} {prepared : Prepared}
    {ended : Except Failure UInt64 × Catalog σ ξ} (sound : ledger.Sound catalog)
    (changes : catalog.schema.Changes prepared)
    (allows : ∀ contents bound, contents.Identifies tag id →
      prepared.Binds catalog.schema.dialect bound → allowed contents (.execute bound))
    (resolved : catalog.Resolved tag (.ok id, middle)) (written : middle.Written prepared ended) :
    ledger.Follows allowed catalog ended.2 := by
  have follows : ledger.Follows allowed catalog middle := of_resolved sound resolved
  have identified := identifies_of_resolved sound resolved
  rw [← follows.schema_eq] at changes allows
  exact follows.trans
    (of_written follows.sound changes (fun bound => allows _ bound identified) written)

theorem of_added (sound : ledger.Sound catalog) (added : catalog.Added entity tag ended) :
    ledger.Follows ((Command.addTag entity tag).Makes catalog.schema) catalog ended.2 := by
  cases added with
  | unresolved resolved => exact of_resolved sound resolved
  | unwritten resolved written =>
    exact of_change sound (.attachment entity _) (fun _ _ => .addTag) resolved written
  | written resolved written =>
    exact of_change sound (.attachment entity _) (fun _ _ => .addTag) resolved written

theorem of_removed (sound : ledger.Sound catalog) (removed : catalog.Removed entity tag ended) :
    ledger.Follows ((Command.removeTag entity tag).Makes catalog.schema) catalog ended.2 := by
  cases removed with
  | unresolved resolved _ => exact of_resolved sound resolved
  | unknown resolved _ => exact of_resolved sound resolved
  | unwritten resolved written =>
    exact of_change sound (.detachment entity _) (fun _ _ => .removeTag) resolved written
  | written resolved written =>
    exact of_change sound (.detachment entity _) (fun _ _ => .removeTag) resolved written

theorem of_created {drafts : List TagDraft} {ended : Except Failure (List StoredTag) × Catalog σ ξ}
    (sound : ledger.Sound catalog) (created : catalog.Created drafts ended) :
    ledger.Follows ((Command.createTags drafts).Makes catalog.schema) catalog ended.2 := by
  have tags (valid : ∀ draft ∈ drafts, draft.tag.check = .ok ()) :
      catalog.schema.AsksForTags (catalog.schema.insertTags (Schema.distinctTags drafts)) :=
    .newTags (fun draft member => valid draft (Schema.distinctTags_subset _ member))
      (Schema.nodup_distinctTags _)
  cases created with
  | invalid _ => exact refl sound
  | nothing _ => exact refl sound
  | unstored valid queried =>
    exact of_queried sound (tags valid).asks (fun bound binds => .createTags valid binds) queried
  | @offered records middle valid queried =>
    have follows : ledger.Follows ((Command.createTags drafts).Makes catalog.schema) catalog
        middle := of_queried sound (tags valid).asks
      (fun bound binds => .createTags valid binds) queried
    have stored := stored_of_queried sound (tags valid) queried
    refine follows.trans (of_cache follows.sound ?_)
    refine Catalog.onlyHolds_offerAll follows.sound.cached fun record member => ?_
    exact ⟨record, stored member, rfl, rfl⟩

/-- Stored tags were listed and offered to the cache. -/
private theorem of_load {records : List StoredTag} {result : Except CacheFault Unit} {cache : σ}
    {events : List Event} (sound : ledger.Sound catalog)
    (queried : catalog.Queried catalog.schema.listAllTags (List.mapM readRow) List.length
      (.ok records, middle))
    (given : (IdCache.load (records.map fun record => (record.signature, record.id))).runFrom
      middle.cache = (result, cache)) :
    ledger.Follows (Command.loadCache.Makes catalog.schema) catalog
      { middle with cache, events } := by
  have follows : ledger.Follows (Command.loadCache.Makes catalog.schema) catalog middle :=
    of_queried sound .allTags (fun bound binds => .loadCache binds) queried
  have stored := stored_of_queried sound .allTags queried
  have good : ∀ entry ∈ records.map fun record => (record.signature, record.id),
      (ledger.contents middle.executor).Names entry.1 entry.2 := by
    intro entry member
    obtain ⟨record, inside, rfl⟩ := List.mem_map.mp member
    exact ⟨record, stored inside, rfl, rfl⟩
  have kept := BoundedCache.keeps_load good _ follows.sound.cached
  rw [given] at kept
  exact follows.trans (of_cache follows.sound kept)

theorem of_loaded {ended : Except Failure Nat × Catalog σ ξ} (sound : ledger.Sound catalog)
    (loaded : catalog.Loaded ended) :
    ledger.Follows (Command.loadCache.Makes catalog.schema) catalog ended.2 := by
  cases loaded with
  | unread queried =>
    have follows : ledger.Follows (Command.loadCache.Makes catalog.schema) catalog _ :=
      of_queried sound .allTags (fun bound binds => .loadCache binds) queried
    exact follows
  | refused queried given => exact of_load sound queried given
  | loaded queried given => exact of_load sound queried given

theorem of_attached {raw : String} {type : TagKind} (sound : ledger.Sound catalog)
    (attached : catalog.Attached entity raw type ended) :
    ledger.Follows ((Command.attachTag entity raw type).Makes catalog.schema) catalog ended.2 := by
  cases attached with
  | known asked added =>
    have last := of_added (sound.with_cache (cached_of_lookup sound asked)) added
    exact (of_lookup sound _ asked).trans (last.mono fun _ _ => .attachKnown)
  | refused asked _ => exact of_lookup sound _ asked
  | uncreated asked created =>
    have last := of_created (sound.with_cache (cached_of_lookup sound asked)) created
    exact (of_lookup sound _ asked).trans (last.mono fun _ _ => .attachNew)
  | created asked created added =>
    have first := of_created (sound.with_cache (cached_of_lookup sound asked)) created
    have last := of_added first.sound added
    rw [first.schema_eq] at last
    exact (of_lookup sound _ asked).trans
      ((first.mono fun _ _ => .attachNew).trans (last.mono fun _ _ => .attachKnown))

/-- The tests of a compiled filter are for the identifiers of the tags it names. -/
theorem matched_of_compile {filter : Filter} {compiled : CompiledFilter} {cache : σ}
    (sound : ledger.Sound catalog)
    (compiles : filter.compile.runFrom catalog.cache = (.ok compiled, cache)) :
    Formula.Matched (Leaf.TestedBy (ledger.contents catalog.executor)) filter
      compiled.predicate := by
  obtain ⟨checked, resolved, resolves, made⟩ := Filter.of_compile_ok compiles
  have traversed := (Filter.of_compileResolved_ok made).1
  refine (Formula.matched_of_traverse traversed).imp ?_
  rintro leaf atom ⟨member, replaced⟩ id rfl
  unfold Leaf.atom at replaced
  cases subject : leaf.subject? with
  | none => simp [subject] at replaced
  | some tag =>
    refine ⟨tag, rfl, ?_⟩
    have inside := Leaf.mem_subjects member subject
    have asked : tag.signature ∈ filter.signatures := Tag.signature_mem_signatures inside
    rw [Filter.resolve, if_neg (List.ne_nil_of_mem asked)] at resolves
    have held : EntryCache.entry? catalog.cache tag.signature = some id := by
      rw [← EntryCache.get?_of_lookupMany resolves _ asked]
      simp only [subject] at replaced
      split at replaced
      · next found =>
        cases replaced
        exact found
      · split at replaced <;> cases replaced
    exact (TruthfulCache.fits_of_entry? sound.cached held).identifies sound.wellKept
      ((Tag.check_ok_iff tag).mp (checked tag inside)).2.1

theorem of_listed {α : Type} {shape : RowShape α} {filter : Filter} {window : PageWindow}
    {ended : Except Failure (Page α) × Catalog σ ξ} (sound : ledger.Sound catalog)
    (listed : catalog.Listed filter window ended) :
    ledger.Follows ((Request.listEntities shape filter window).Makes catalog.schema) catalog
      ended.2 := by
  have compiling {result : Except Failure CompiledFilter} {cache : σ} {events : List Event}
      (compiles : filter.compile.runFrom catalog.cache = (result, cache)) :
      ledger.Follows ((Request.listEntities shape filter window).Makes catalog.schema) catalog
        { catalog with cache, events } := by
    have kept : BoundedCache.OnlyHolds (ledger.contents catalog.executor).Names false
        (filter.compile.runFrom catalog.cache).2 := Catalog.keeps_compile _ _ sound.cached
    rw [compiles] at kept
    exact of_cache sound kept
  cases listed with
  | uncompiled compiles => exact compiling compiles
  | compiled compiles queried =>
    have matched := matched_of_compile sound compiles
    refine (compiling compiles).trans
      (of_queried (compiling compiles).sound (.entities _ _) ?_ queried)
    exact fun bound binds => .listEntities matched binds

end Follows

theorem follows_perform (sound : ledger.Sound catalog) (command : Command) :
    ledger.Follows (command.Makes catalog.schema) catalog (catalog.perform command).2 := by
  cases command with
  | loadCache => exact .of_loaded sound catalog.loaded
  | createTags drafts => exact .of_created sound (catalog.created drafts)
  | addTag entity tag => exact .of_added sound (catalog.added entity tag)
  | removeTag entity tag => exact .of_removed sound (catalog.removed entity tag)
  | attachTag entity raw type => exact .of_attached sound (catalog.attached entity raw type)

/-- A request leaves a sound catalog sound and makes no calls but its own. -/
theorem follows_serve (sound : ledger.Sound catalog) (request : Request) :
    ledger.Follows (request.Makes catalog.schema) catalog (catalog.serve request) := by
  cases request with
  | command command => exact (follows_perform sound command).mono fun _ _ => .command
  | listEntities shape filter window => exact .of_listed sound (catalog.listed filter window)
  | listTags search window =>
    exact .of_queried sound (.tags search window) (fun bound binds => .listTags binds)
      (catalog.queried_listTags search window)
  | entityTags entity =>
    exact .of_queried sound (.entityTags entity) (fun bound binds => .entityTags binds)
      (catalog.queried_entityTags entity)

/-- The identifiers in the text of each call that a request makes of a sound catalog are those
that the store has, at the time of the call, for the tags of the request. -/
theorem namesTags_serve (sound : ledger.Sound catalog) (request : Request) :
    ledger.Follows (request.NamesTags catalog.schema) catalog (catalog.serve request) :=
  (follows_serve sound request).mono fun _ _ makes => makes.namesTags catalog.schema_checked

end TagLedger

end TagQuery
