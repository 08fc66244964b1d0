import TagQuery.Proofs.KeyValueStore.Texts

/-! A store that may refuse any operation at any time, with a journal of what became of each. -/

namespace TagQuery

inductive StoreEvent where
  | answered (key : String)
  | accepted (key value : String)
  | refused (refusal : StoreRefusal)
deriving DecidableEq, Repr

namespace StoreEvent

def write? : StoreEvent → Option (String × String)
  | accepted key value => some (key, value)
  | _ => none

def refusal? : StoreEvent → Option StoreRefusal
  | refused refusal => some refusal
  | _ => none

end StoreEvent

/-- A local store that refuses operations by the number of those before them, and gets and sets
batches one by one. -/
structure FickleStore where
  store : LocalStore := {}
  refuses : Nat → Option StoreRefusal := fun _ => none
  /-- What became of every operation so far, the latest last. -/
  journal : List StoreEvent := []

namespace FickleStore

def note (event : StoreEvent) : Action StoreRefusal FickleStore Unit :=
  modify fun fickle => { fickle with journal := fickle.journal ++ [event] }

/-- Refuse a step, or note what becomes of it and take it. -/
def attempting {α : Type} (event : StoreEvent) (action : Action StoreRefusal LocalStore α) :
    Action StoreRefusal FickleStore α := do
  let fickle ← get
  match fickle.refuses fickle.journal.length with
  | some refusal =>
    note (.refused refusal)
    throw refusal
  | none =>
    note event
    action.onPart FickleStore.store fun fickle store => { fickle with store }

instance : KeyValueStore FickleStore where
  get key := attempting (.answered key) (KeyValueStore.get key)
  set key value := attempting (.accepted key value) (KeyValueStore.set key value)

/-- The writes that were accepted, in their order. -/
def writes (fickle : FickleStore) : List (String × String) :=
  fickle.journal.filterMap StoreEvent.write?

/-- The store has what it accepted, and refused what it was to refuse. -/
structure Kept (fickle : FickleStore) : Prop where
  entries : fickle.store.entries = .ofList fickle.writes
  refusals : fickle.journal.map StoreEvent.refusal? =
    (List.range fickle.journal.length).map fickle.refuses

namespace Kept

variable {fickle : FickleStore}

/-- The text of a key is the last that was accepted for it. -/
theorem get? (kept : fickle.Kept) (key : String) :
    fickle.store.entries.get? key = fickle.writes.reverse.lookup key := by
  rw [kept.entries, OrderedMap.get?_ofList]

/-- One more operation is noted as it was to end, and written if it is a write. -/
theorem noted (kept : fickle.Kept) {event : StoreEvent} {store : LocalStore}
    (expected : fickle.refuses fickle.journal.length = event.refusal?)
    (written : store.entries = fickle.store.entries.insertMany event.write?.toList) :
    Kept { fickle with store, journal := fickle.journal ++ [event] } where
  entries := by
    have more : FickleStore.writes { fickle with store, journal := fickle.journal ++ [event] } =
        fickle.writes ++ event.write?.toList := by
      rw [FickleStore.writes, List.filterMap_append]
      cases event <;> rfl
    rw [more, written, kept.entries]
    exact List.foldl_append.symm
  refusals := by
    rw [List.map_append, kept.refusals, List.length_append, List.length_singleton, List.range_succ,
      List.map_append, List.map_singleton, List.map_singleton, expected]

end Kept

/-- What operations add to a store: the writes that it accepted, and the refusal they ended
with, if any. -/
structure Extends (before : FickleStore) (accepted : List (String × String))
    (refusal : Option StoreRefusal) (after : FickleStore) : Prop where
  noted : ∃ events, after.journal = before.journal ++ events ∧
    events.filterMap StoreEvent.write? = accepted ∧
    events.filterMap StoreEvent.refusal? = refusal.toList
  refuses_eq : after.refuses = before.refuses
  kept : before.Kept → after.Kept

namespace Extends

variable {before middle after : FickleStore} {accepted accepted' : List (String × String)}
  {refusal : Option StoreRefusal}

theorem refl (fickle : FickleStore) : Extends fickle [] none fickle where
  noted := ⟨[], (List.append_nil _).symm, rfl, rfl⟩
  refuses_eq := rfl
  kept := id

/-- Operations go on after others that were not refused. -/
theorem trans (first : Extends before accepted none middle)
    (second : Extends middle accepted' refusal after) :
    Extends before (accepted ++ accepted') refusal after where
  noted := by
    obtain ⟨events, journal, writes, refusals⟩ := first.noted
    obtain ⟨events', journal', writes', refusals'⟩ := second.noted
    refine ⟨events ++ events', ?_, ?_, ?_⟩
    · rw [journal', journal, List.append_assoc]
    · rw [List.filterMap_append, writes, writes']
    · rw [List.filterMap_append, refusals, refusals']
      rfl
  refuses_eq := second.refuses_eq.trans first.refuses_eq
  kept kept := second.kept (first.kept kept)

theorem writes_eq (extended : Extends before accepted refusal after) :
    after.writes = before.writes ++ accepted := by
  obtain ⟨events, journal, writes, _⟩ := extended.noted
  rw [FickleStore.writes, journal, List.filterMap_append, writes, FickleStore.writes]

end Extends

/-- A refusal adds no write. -/
private theorem extends_refused (fickle : FickleStore) {refusal : StoreRefusal}
    (refused : fickle.refuses fickle.journal.length = some refusal) :
    fickle.Extends [] (some refusal)
      { fickle with journal := fickle.journal ++ [.refused refusal] } where
  noted := ⟨[.refused refusal], rfl, rfl, rfl⟩
  refuses_eq := rfl
  kept kept := kept.noted refused rfl

/-- An operation that is not refused is noted and taken. -/
private theorem runFrom_attempting {α : Type} (event : StoreEvent)
    (action : Action StoreRefusal LocalStore α) (fickle : FickleStore) :
    (attempting event action).runFrom fickle =
      match fickle.refuses fickle.journal.length with
      | some refusal => (.error refusal,
          { fickle with journal := fickle.journal ++ [.refused refusal] })
      | none => ((action.runFrom fickle.store).1,
          { fickle with
            store := (action.runFrom fickle.store).2, journal := fickle.journal ++ [event] }) := by
  unfold attempting
  rw [Action.runFrom_bind_of_ok (Action.runFrom_get fickle)]
  cases fickle.refuses fickle.journal.length <;> rfl

private theorem runFrom_get (fickle : FickleStore) (key : String) :
    (KeyValueStore.get key).runFrom fickle = match fickle.refuses fickle.journal.length with
      | some refusal => (.error refusal,
          { fickle with journal := fickle.journal ++ [.refused refusal] })
      | none => (.ok (fickle.store.entries.get? key),
          { fickle with journal := fickle.journal ++ [.answered key] }) :=
  runFrom_attempting _ _ fickle

private theorem runFrom_set (fickle : FickleStore) (key value : String) :
    (KeyValueStore.set key value).runFrom fickle = match fickle.refuses fickle.journal.length with
      | some refusal => (.error refusal,
          { fickle with journal := fickle.journal ++ [.refused refusal] })
      | none => (.ok (),
          { fickle with
            store := ⟨fickle.store.entries.insert key value⟩
            journal := fickle.journal ++ [.accepted key value] }) :=
  runFrom_attempting _ _ fickle

variable (fickle : FickleStore)

/-- The ends of a question: all of it is answered, or it is refused. -/
inductive Answers {α : Type} (answer : α) : Except StoreRefusal α × FickleStore → Prop
  | answered {after : FickleStore} : fickle.Extends [] none after → after.store = fickle.store →
    Answers answer (.ok answer, after)
  | refused {refusal : StoreRefusal} {after : FickleStore} :
    fickle.Extends [] (some refusal) after → Answers answer (.error refusal, after)

theorem answers_get (key : String) : fickle.Answers (fickle.store.entries.get? key)
    ((KeyValueStore.get key).runFrom fickle) := by
  rw [runFrom_get]
  cases refused : fickle.refuses fickle.journal.length with
  | some refusal => exact .refused (extends_refused fickle refused)
  | none =>
    refine .answered ⟨⟨[.answered key], rfl, rfl, rfl⟩, rfl, fun kept => ?_⟩ rfl
    exact kept.noted refused rfl

/-- A batch is asked for one by one. -/
theorem answers_getMany (keys : List String) : fickle.Answers (keys.map fickle.store.entries.get?)
    ((KeyValueStore.getMany keys).runFrom fickle) := by
  change fickle.Answers _ ((keys.mapM KeyValueStore.get).runFrom fickle)
  induction keys generalizing fickle with
  | nil => exact .answered (.refl fickle) rfl
  | cons key rest ih =>
    rw [List.mapM_cons, Action.runFrom_bind]
    have first := fickle.answers_get key
    generalize (KeyValueStore.get key).runFrom fickle = ran at first
    cases first with
    | refused extended => exact .refused extended
    | @answered middle extended same =>
      dsimp only
      rw [Action.runFrom_bind]
      have later := ih middle
      rw [same] at later
      generalize (rest.mapM KeyValueStore.get).runFrom middle = ran at later
      cases later with
      | refused extended' => exact .refused (extended.trans extended')
      | answered extended' same' => exact .answered (extended.trans extended') (same'.trans same)

/-- The ends of writing entries: all of them are accepted, or those before a refusal. -/
inductive Takes (entries : List (String × String)) : Except StoreRefusal Unit × FickleStore → Prop
  | all {after : FickleStore} : fickle.Extends entries none after → Takes entries (.ok (), after)
  | part {accepted : List (String × String)} {refusal : StoreRefusal} {after : FickleStore} :
    accepted <+: entries → fickle.Extends accepted (some refusal) after →
      Takes entries (.error refusal, after)

theorem takes_set (key value : String) :
    fickle.Takes [(key, value)] ((KeyValueStore.set key value).runFrom fickle) := by
  rw [runFrom_set]
  cases refused : fickle.refuses fickle.journal.length with
  | some refusal => exact .part List.nil_prefix (extends_refused fickle refused)
  | none =>
    refine .all ⟨⟨[.accepted key value], rfl, rfl, rfl⟩, rfl, fun kept => ?_⟩
    exact kept.noted refused rfl

/-- A batch is written one by one, up to the first refusal. -/
theorem takes_setMany (entries : List (String × String)) :
    fickle.Takes entries ((KeyValueStore.setMany entries).runFrom fickle) := by
  change fickle.Takes _ ((entries.forM fun entry => KeyValueStore.set entry.1 entry.2).runFrom fickle)
  induction entries generalizing fickle with
  | nil => exact .all (.refl fickle)
  | cons entry rest ih =>
    change fickle.Takes _ ((KeyValueStore.set entry.1 entry.2 >>= fun _ =>
      rest.forM fun entry => KeyValueStore.set entry.1 entry.2).runFrom fickle)
    rw [Action.runFrom_bind]
    have first := fickle.takes_set entry.1 entry.2
    generalize (KeyValueStore.set entry.1 entry.2).runFrom fickle = ran at first
    cases first with
    | part before extended => exact .part (before.trans (List.prefix_append [entry] rest)) extended
    | @all middle extended =>
      have later := ih middle
      dsimp only
      generalize (rest.forM fun entry => KeyValueStore.set entry.1 entry.2).runFrom middle = ran at later
      cases later with
      | all extended' => exact .all (extended.trans extended')
      | part before extended' =>
        exact .part ((List.prefix_append_right_inj [entry]).mpr before) (extended.trans extended')

private theorem keeps_get (texts : String → Option String) (key : String) :
    Action.Keeps (fun fickle : FickleStore => fickle.store.entries.get? = texts)
      (KeyValueStore.get key) := by
  intro fickle held
  rw [runFrom_get]
  cases fickle.refuses fickle.journal.length <;> exact held

private theorem changes_of_set (fickle : FickleStore) (key value name : String) :
    ((KeyValueStore.set key value).runFrom fickle).2.store.entries.get? name =
        fickle.store.entries.get? name ∨
      name = key ∧ ((KeyValueStore.set key value).runFrom fickle).2.store.entries.get? name =
        some value := by
  rw [runFrom_set]
  cases fickle.refuses fickle.journal.length with
  | some refusal => exact .inl rfl
  | none => exact HonestStore.changes_of_set fickle.store key value name

/-- What is refused by no number from here on is not refused after one more operation. -/
private theorem willing_later {fickle : FickleStore}
    (willing : ∀ number ≥ fickle.journal.length, fickle.refuses number = none) (event : StoreEvent) :
    ∀ number ≥ (fickle.journal ++ [event]).length, fickle.refuses number = none := by
  intro number later
  rw [List.length_append] at later
  exact willing number (Nat.le_of_add_right_le later)

instance : TextStore FickleStore where
  text? fickle := fickle.store.entries.get?
  answers_of_getMany {fickle _ keys _} ran _ := by
    have ends := fickle.answers_getMany keys
    rw [ran] at ends
    cases ends
    rfl

/-- Whatever a store refuses, and when, it has the texts that it accepted. -/
instance : HonestStore FickleStore where
  Willing fickle := ∀ number ≥ fickle.journal.length, fickle.refuses number = none
  keeps_get := keeps_get
  keeps_getMany texts _ := .mapM fun key _ => keeps_get texts key
  changes_of_set := changes_of_set
  changes_of_setMany := KeyValueStore.changes_of_forM_set changes_of_set
  answer_of_get {fickle _ key _} ran := by
    have ends := fickle.answers_get key
    rw [ran] at ends
    cases ends
    rfl
  text?_of_set {fickle _ key value} ran := by
    rw [runFrom_set] at ran
    cases refused : fickle.refuses fickle.journal.length with
    | some refusal =>
      rw [refused] at ran
      cases ran
    | none =>
      rw [refused] at ran
      cases ran
      exact OrderedMap.get?_insert_self _ key value
  get_of_willing {fickle} key willing := by
    have ran := runFrom_get fickle key
    rw [willing _ (Nat.le_refl _)] at ran
    exact ⟨_, _, ran, willing_later willing (.answered key)⟩
  set_of_willing {fickle} key value willing := by
    have ran := runFrom_set fickle key value
    rw [willing _ (Nat.le_refl _)] at ran
    exact ⟨_, ran, willing_later willing (.accepted key value)⟩

end FickleStore

end TagQuery
