import TagQuery.KeyValueStore.Unreliable
import TagQuery.Proofs.Action.Keeps
import TagQuery.Proofs.OrderedMap.Lookup

/-! Stores of which it is known what they hold, and what a refusal leaves of that. -/

namespace TagQuery

/-- A store whose texts are known: a batch answered in full has those of its keys. -/
class TextStore (σ : Type) [KeyValueStore σ] where
  text? : σ → String → Option String
  answers_of_getMany {store after : σ} {keys : List String} {answers : List (Option String)} :
    (KeyValueStore.getMany keys).runFrom store = (.ok answers, after) →
      answers.length = keys.length → answers = keys.map (text? store)

/-- A store that may refuse anything, but that answers with its texts, changes them only
where it is asked to, and has written what it accepted. -/
class HonestStore (σ : Type) [KeyValueStore σ] extends TextStore σ where
  /-- Nothing that is asked for one by one will be refused. -/
  Willing : σ → Prop
  keeps_get (texts : String → Option String) (key : String) :
    Action.Keeps (fun store => text? store = texts) (KeyValueStore.get key : Action _ σ _)
  keeps_getMany (texts : String → Option String) (keys : List String) :
    Action.Keeps (fun store => text? store = texts) (KeyValueStore.getMany keys : Action _ σ _)
  changes_of_set (store : σ) (key value name : String) :
    text? ((KeyValueStore.set key value).runFrom store).2 name = text? store name ∨
      name = key ∧ text? ((KeyValueStore.set key value).runFrom store).2 name = some value
  changes_of_setMany (store : σ) (entries : List (String × String)) (name : String) :
    text? ((KeyValueStore.setMany entries).runFrom store).2 name = text? store name ∨
      ∃ value, (name, value) ∈ entries ∧
        text? ((KeyValueStore.setMany entries).runFrom store).2 name = some value
  answer_of_get {store after : σ} {key : String} {answer : Option String} :
    (KeyValueStore.get key).runFrom store = (.ok answer, after) → answer = text? store key
  text?_of_set {store after : σ} {key value : String} :
    (KeyValueStore.set key value).runFrom store = (.ok (), after) → text? after key = some value
  get_of_willing {store : σ} (key : String) : Willing store →
    ∃ answer after, (KeyValueStore.get key).runFrom store = (.ok answer, after) ∧ Willing after
  set_of_willing {store : σ} (key value : String) : Willing store →
    ∃ after, (KeyValueStore.set key value).runFrom store = (.ok (), after) ∧ Willing after

/-- Entries that are written one by one change nothing but their keys, each to one of its values. -/
theorem KeyValueStore.changes_of_forM_set {σ : Type} [KeyValueStore σ]
    {texts : σ → String → Option String}
    (changes : ∀ store key value name,
      texts ((KeyValueStore.set key value).runFrom store).2 name = texts store name ∨
        name = key ∧ texts ((KeyValueStore.set key value).runFrom store).2 name = some value)
    (store : σ) (entries : List (String × String)) (name : String) :
    let after := ((entries.forM fun entry => KeyValueStore.set entry.1 entry.2).runFrom store).2
    texts after name = texts store name ∨
      ∃ value, (name, value) ∈ entries ∧ texts after name = some value := by
  let written (after : σ) : Prop := texts after name = texts store name ∨
    ∃ value, (name, value) ∈ entries ∧ texts after name = some value
  have each : ∀ entry ∈ entries, Action.Keeps written
      (KeyValueStore.set entry.1 entry.2 : Action StoreRefusal σ Unit) := by
    intro entry member before held
    unfold written
    rcases changes before entry.1 entry.2 name with same | ⟨rfl, new⟩
    · rw [same]
      exact held
    · exact .inr ⟨entry.2, member, new⟩
  exact Action.Keeps.forM each store (.inl rfl)

instance : TextStore LocalStore where
  text? store := store.entries.get?
  answers_of_getMany ran _ := by
    cases ran
    rfl

/-- A store that answers whatever it is asked for, and that its answers leave as it was. -/
class SteadyStore (σ : Type) [KeyValueStore σ] extends TextStore σ where
  runFrom_get (store : σ) (key : String) :
    (KeyValueStore.get key).runFrom store = (.ok (text? store key), store)
  runFrom_getMany (store : σ) (keys : List String) :
    (KeyValueStore.getMany keys).runFrom store = (.ok (keys.map (text? store)), store)

instance : SteadyStore LocalStore where
  runFrom_get _ _ := rfl
  runFrom_getMany _ _ := rfl

/-- A store in the process refuses nothing. -/
instance : HonestStore LocalStore where
  Willing _ := True
  keeps_get _ _ _ held := held
  keeps_getMany _ _ _ held := held
  changes_of_set store key value name := by
    change (store.entries.insert key value).get? name = store.entries.get? name ∨
      name = key ∧ (store.entries.insert key value).get? name = some value
    rw [OrderedMap.get?_insert]
    by_cases same : name = key
    · exact .inr ⟨same, if_pos same⟩
    · exact .inl (if_neg same)
  changes_of_setMany store entries name := by
    change (store.entries.insertMany entries).get? name = store.entries.get? name ∨
      ∃ value, (name, value) ∈ entries ∧
        (store.entries.insertMany entries).get? name = some value
    rw [OrderedMap.get?_insertMany]
    cases found : entries.reverse.lookup name with
    | none => exact .inl Option.none_or
    | some value =>
      have member : (name, value) ∈ entries.reverse := @OrderedMap.mem_of_get? _ _ _ ⟨_⟩ _ _ found
      exact .inr ⟨value, List.mem_reverse.mp member, Option.some_or⟩
  answer_of_get ran := by
    cases ran
    rfl
  text?_of_set ran := by
    cases ran
    exact OrderedMap.get?_insert_self _ _ _
  get_of_willing _ _ := ⟨_, _, rfl, trivial⟩
  set_of_willing _ _ _ := ⟨_, rfl, trivial⟩

namespace UnreliableStore

theorem runFrom_getOne (unreliable : UnreliableStore) (key : String) :
    (getOne key).runFrom unreliable = (if unreliable.refusesGet key then .error ⟨unreliable.reason⟩
      else .ok (unreliable.store.entries.get? key), unreliable) := by
  unfold getOne guarding
  cases refused : unreliable.refusesGet key
  · simp only [Action.runFrom_bind, Action.runFrom_get, refused]
    rfl
  · simp [Action.runFrom_bind, refused]

theorem runFrom_set (unreliable : UnreliableStore) (key value : String) :
    (KeyValueStore.set key value).runFrom unreliable =
      if unreliable.refusesSet key then (.error ⟨unreliable.reason⟩, unreliable)
      else (.ok (), { unreliable with store := ⟨unreliable.store.entries.insert key value⟩ }) := by
  change (guarding (·.refusesSet key) (KeyValueStore.set key value)).runFrom unreliable = _
  unfold guarding
  cases refused : unreliable.refusesSet key
  · simp only [Action.runFrom_bind, Action.runFrom_get, refused]
    rfl
  · simp [Action.runFrom_bind, refused]

private theorem answers_of_getMany {unreliable after : UnreliableStore} {keys : List String}
    {answers : List (Option String)}
    (ran : (KeyValueStore.getMany keys).runFrom unreliable = (.ok answers, after))
    (full : answers.length = keys.length) :
    answers = keys.map unreliable.store.entries.get? := by
  obtain ⟨found, middle, asked, more⟩ := Action.of_runFrom_bind_ok ran
  have steady : ∀ key answer later, (getOne key).runFrom unreliable = (.ok answer, later) →
      later = unreliable ∧ answer = unreliable.store.entries.get? key := by
    intro key answer later one
    rw [runFrom_getOne] at one
    split at one
    · cases one
    · cases one
      exact ⟨rfl, rfl⟩
  obtain ⟨same, rfl⟩ := Action.of_runFrom_mapM_ok steady asked
  subst middle
  cases more
  cases cut : unreliable.arriving with
  | none => rfl
  | some arriving =>
    rw [cut] at full
    refine List.take_of_length_le ?_
    simp only [Option.elim, List.length_take, List.length_map] at full ⊢
    omega

instance : TextStore UnreliableStore where
  text? unreliable := unreliable.store.entries.get?
  answers_of_getMany := answers_of_getMany

private theorem keeps_getOne (texts : String → Option String) (key : String) :
    Action.Keeps (fun unreliable => unreliable.store.entries.get? = texts) (getOne key) := by
  intro unreliable held
  rw [runFrom_getOne]
  exact held

private theorem changes_of_set (unreliable : UnreliableStore) (key value name : String) :
    ((KeyValueStore.set key value).runFrom unreliable).2.store.entries.get? name =
        unreliable.store.entries.get? name ∨
      name = key ∧ ((KeyValueStore.set key value).runFrom unreliable).2.store.entries.get? name =
        some value := by
  rw [runFrom_set]
  split
  · exact .inl rfl
  · rw [OrderedMap.get?_insert]
    by_cases same : name = key
    · exact .inr ⟨same, if_pos same⟩
    · exact .inl (if_neg same)

instance : HonestStore UnreliableStore where
  Willing unreliable := ∀ key, unreliable.refusesGet key = false ∧ unreliable.refusesSet key = false
  keeps_get := keeps_getOne
  keeps_getMany texts keys := by
    refine (Action.Keeps.mapM fun key _ => keeps_getOne texts key).bind fun _ => ?_
    exact Action.Keeps.get.bind fun _ => .pure _
  changes_of_set := changes_of_set
  changes_of_setMany := KeyValueStore.changes_of_forM_set changes_of_set
  answer_of_get {unreliable _ key _} ran := by
    change (getOne key).runFrom unreliable = _ at ran
    rw [runFrom_getOne] at ran
    split at ran
    · cases ran
    · cases ran
      rfl
  text?_of_set {unreliable _ key value} ran := by
    rw [runFrom_set] at ran
    split at ran
    · cases ran
    · cases ran
      exact OrderedMap.get?_insert_self _ key value
  get_of_willing {unreliable} key willing := by
    refine ⟨unreliable.store.entries.get? key, unreliable, ?_, willing⟩
    change (getOne key).runFrom unreliable = _
    rw [runFrom_getOne, (willing key).1]
    rfl
  set_of_willing {unreliable} key value willing := by
    refine ⟨{ unreliable with store := ⟨unreliable.store.entries.insert key value⟩ }, ?_, willing⟩
    rw [runFrom_set, (willing key).2]
    rfl

end UnreliableStore

end TagQuery
