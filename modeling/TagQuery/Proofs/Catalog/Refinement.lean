import TagQuery.Proofs.Catalog.Registry
import TagQuery.Proofs.Catalog.ResidentTables

/-! Sessions of one catalog that alone writes its store: it answers as a registry does. -/

namespace TagQuery

/-- Tags with names of their own that pass the check have signatures of their own. -/
theorem Contents.WellKept.of_names {contents : Contents}
    (names : (contents.tags.map StoredTag.tag).Nodup)
    (checked : ∀ record ∈ contents.tags, record.tag.check = .ok ()) : contents.WellKept := by
  have plain {record : StoredTag} (member : record ∈ contents.tags) : ':' ∉ record.tag.key.toList :=
    ((Tag.check_ok_iff _).mp (checked record member)).2.1
  refine ⟨List.Nodup.map_on ?_ (List.Nodup.of_map _ names), checked⟩
  intro first inside second inside' same
  exact List.inj_on_of_nodup_map names inside inside'
    (Tag.signature_injective (plain inside) (plain inside') same)

/-- The answers to a session of commands: the cache is loaded before all others. -/
def Catalog.session {σ ξ : Type} [IdCache σ] [Executor ξ] (catalog : Catalog σ ξ)
    (commands : List Command) : List (Except Failure Reply) × Catalog σ ξ :=
  Command.runAll Catalog.perform catalog (.loadCache :: commands)

def Registry.session (registry : Registry) (commands : List Command) :
    List (Except QueryFault Verdict) × Registry :=
  Command.runAll Registry.perform registry (.loadCache :: commands)

variable {σ ξ : Type} [IdCache σ] [ReliableCache σ] [Executor ξ] {schema : Schema}
  {store : TagStore schema ξ} {catalog : Catalog σ ξ}

namespace TagStore.Mirrored

theorem runAll (mirrored : store.Mirrored catalog) {commands : List Command}
    (valid : ∀ command ∈ commands, command.Valid) :
    store.Mirrored (Command.runAll Catalog.perform catalog commands).2 ∧
      (store.contents catalog.executor).tags <+:
        (store.contents (Command.runAll Catalog.perform catalog commands).2.executor).tags := by
  induction commands generalizing catalog with
  | nil => exact ⟨mirrored, List.prefix_refl _⟩
  | cons command rest ih =>
    obtain ⟨does, next⟩ := mirrored.does_perform (valid command List.mem_cons_self)
    obtain ⟨last, longer⟩ := ih next fun later member => valid later (List.mem_cons_of_mem _ member)
    exact ⟨last, does.tags_prefix.trans longer⟩

/-- A mirroring cache finds the identifiers of stored tags and no others. -/
theorem lookup_ok_iff (mirrored : store.Mirrored catalog) (signature : Signature) (id : TagId) :
    ((IdCache.lookup signature).runFrom catalog.cache).1 = .ok id ↔
      (store.contents catalog.executor).Names signature id := by
  rw [ReliableCache.runFrom_lookup signature mirrored.loaded mirrored.sound.cached]
  constructor
  · intro found
    cases held : EntryCache.entry? catalog.cache signature with
    | none => simp [held] at found
    | some other =>
      simp only [held, Option.elim_some, Except.ok.injEq] at found
      exact TruthfulCache.fits_of_entry? mirrored.sound.cached (found ▸ held)
  · rintro ⟨record, member, rfl, rfl⟩
    rw [mirrored.known record member]
    rfl

end TagStore.Mirrored

/-- Command by command, a catalog answers as the registry of its store, and leaves it so. -/
def TagStore.AnswersAsRegistry (store : TagStore schema ξ) (catalog : Catalog σ ξ)
    (commands : List Command) : Prop :=
  (Command.runAll Catalog.perform catalog commands).1.map (Except.map Reply.verdict) =
      (Command.runAll Registry.perform (store.contents catalog.executor).registry commands).1.map
        (Except.mapError .ofQuery) ∧
    (store.contents (Command.runAll Catalog.perform catalog commands).2.executor).registry =
      (Command.runAll Registry.perform (store.contents catalog.executor).registry commands).2

namespace TagStore.AnswersAsRegistry

omit [ReliableCache σ] in
theorem cons {command : Command} {rest : List Command}
    (first : Command.Does.Matches (store.contents catalog.executor) command
      (catalog.perform command).1
      (store.contents (catalog.perform command).2.executor))
    (later : store.AnswersAsRegistry (catalog.perform command).2 rest) :
    store.AnswersAsRegistry catalog (command :: rest) := by
  obtain ⟨answer, after⟩ := first
  unfold AnswersAsRegistry at later
  rw [after] at later
  exact ⟨congrArg₂ List.cons answer later.1, later.2⟩

/-- A mirrored catalog answers as a registry when its store gives fresh identifiers. -/
theorem of_mirrored (mirrored : store.Mirrored catalog) {commands : List Command}
    (valid : ∀ command ∈ commands, command.Valid)
    (fresh : (store.contents catalog.executor).GivesFreshIds
      (store.contents (Command.runAll Catalog.perform catalog commands).2.executor)) :
    store.AnswersAsRegistry catalog commands := by
  induction commands generalizing catalog with
  | nil => exact ⟨rfl, rfl⟩
  | cons command rest ih =>
    have here := valid command List.mem_cons_self
    have later := fun command member => valid command (List.mem_cons_of_mem _ member)
    obtain ⟨does, next⟩ := mirrored.does_perform here
    have longer := (next.runAll later).2
    have first := does.matches_registry here mirrored.sound.wellKept (fresh.of_prefix longer)
    exact .cons first (ih next later (does.givesFreshIds fresh longer))

end TagStore.AnswersAsRegistry

/-- One catalog with an empty cache on a store of checked tags, each named once. Whatever valid
commands follow once the cache was loaded, when the store gives fresh identifiers to new tags:
every answer is the one of a registry of tags and pairs, the store stands for the registry that
is left, and the cache finds the identifiers of all stored tags and no others. -/
theorem Catalog.session_refines (same : catalog.schema = schema)
    (names : ((store.contents catalog.executor).tags.map StoredTag.tag).Nodup)
    (checked : ∀ record ∈ (store.contents catalog.executor).tags, record.tag.check = .ok ())
    (empty : BoundedCache.HoldsNothing catalog.cache) {commands : List Command}
    (valid : ∀ command ∈ commands, command.Valid)
    (fresh : (store.contents catalog.executor).GivesFreshIds
      (store.contents (catalog.session commands).2.executor)) :
    (catalog.session commands).1.map (Except.map Reply.verdict) =
        ((store.contents catalog.executor).registry.session commands).1.map
          (Except.mapError .ofQuery) ∧
      (store.contents (catalog.session commands).2.executor).registry =
        ((store.contents catalog.executor).registry.session commands).2 ∧
      ∀ signature id,
        ((IdCache.lookup signature).runFrom (catalog.session commands).2.cache).1 = .ok id ↔
          (store.contents (catalog.session commands).2.executor).Names signature id := by
  have wellKept : (store.contents catalog.executor).WellKept := .of_names names checked
  have sound : store.ledger.Sound catalog :=
    ⟨same, wellKept, BoundedCache.onlyHolds_imp (fun _ _ => False.elim) empty⟩
  -- Before the first command the cache is not loaded, so it does not mirror the store yet.
  obtain ⟨does, mirrored⟩ := TagStore.Mirrored.does_loaded sound catalog.loaded
  have longer := (mirrored.runAll valid).2
  have first := does.matches_registry trivial wellKept (fresh.of_prefix longer)
  have answers : store.AnswersAsRegistry catalog (.loadCache :: commands) :=
    .cons first (.of_mirrored mirrored valid (does.givesFreshIds fresh longer))
  exact ⟨answers.1, answers.2, (mirrored.runAll valid).1.lookup_ok_iff⟩

/-- A tag, and an entity that carries it. -/
def Contents.oneTagged : Contents where
  tags := [⟨⟨1⟩, "x", none, .ordinary⟩]
  pairs := [(1, ⟨1⟩)]

/-- A catalog on tables of the usual names, with a fresh cache in a store in the process. -/
def Catalog.onTables (contents : Contents) : Catalog (SharedCache LocalStore) ResidentTables where
  schema := {}
  schema_checked := Schema.check_usual
  cache := { store := {}, keyStart := "tag:" }
  executor := ⟨contents⟩

/-- A new tag is asked for twice beside a stored one, a tag is attached from text, one that is
not stored is added, and the one of before is taken away. -/
def Command.everyKind : List Command :=
  [.createTags [⟨.bare "x", .ordinary⟩, ⟨⟨"y", some "1"⟩, .ordinary⟩, ⟨⟨"y", some "1"⟩, .ordinary⟩],
   .attachTag 2 "z" .ordinary, .addTag 1 (.bare "w"), .removeTag 1 (.bare "x"), .loadCache]

theorem Catalog.session_refines_everyKind :
    let ended := (onTables .oneTagged).session Command.everyKind
    let after := ResidentTables.tagStore.contents ended.2.executor
    Contents.oneTagged.GivesFreshIds after ∧
    ended.1.map (Except.map Reply.verdict) =
        (Contents.oneTagged.registry.session Command.everyKind).1.map
          (Except.mapError .ofQuery) ∧
      after.registry = (Contents.oneTagged.registry.session Command.everyKind).2 ∧
      ∀ signature id, ((IdCache.lookup signature).runFrom ended.2.cache).1 = .ok id ↔
        after.Names signature id := by
  have names : (Contents.oneTagged.tags.map StoredTag.tag).Nodup := List.nodup_singleton _
  have checked : ∀ record ∈ Contents.oneTagged.tags, record.tag.check = .ok () := by
    decide +kernel
  have empty : SharedCache.OnlyHolds (fun _ _ => False) false (onTables .oneTagged).cache :=
    ⟨nofun, nofun⟩
  have valid : ∀ command ∈ Command.everyKind, command.Valid := by decide +kernel
  have fresh : Contents.oneTagged.GivesFreshIds (ResidentTables.tagStore.contents
      ((onTables .oneTagged).session Command.everyKind).2.executor) := by
    decide +kernel
  exact ⟨fresh, @session_refines _ _ _ _ _ _ ResidentTables.tagStore (onTables .oneTagged) rfl
    names checked empty _ valid fresh⟩

end TagQuery
