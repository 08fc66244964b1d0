import TagQuery.IdCache.Shared
import TagQuery.Proofs.KeyValueStore.Texts

/-! Caches that hold nothing but entries of a kind, whatever is refused to them. -/

namespace TagQuery

/-- A cache whose entries are those that were loaded and recorded, and that stays loaded
once it is. -/
class BoundedCache (σ : Type) [IdCache σ] where
  /-- Every entry fits, and the cache was loaded if that is asked. -/
  OnlyHolds (fits : Signature → TagId → Prop) (loaded : Bool) : σ → Prop
  onlyHolds_imp {fits fits' : Signature → TagId → Prop} {loaded : Bool} {cache : σ} :
    (∀ signature id, fits signature id → fits' signature id) → OnlyHolds fits loaded cache →
      OnlyHolds fits' loaded cache
  keeps_load {fits : Signature → TagId → Prop} {loaded : Bool}
    {entries : List (Signature × TagId)} : (∀ entry ∈ entries, fits entry.1 entry.2) →
      Action.Keeps (OnlyHolds fits loaded) (IdCache.load entries : Action _ σ _)
  keeps_lookup (fits : Signature → TagId → Prop) (loaded : Bool) (signature : Signature) :
    Action.Keeps (OnlyHolds fits loaded) (IdCache.lookup signature : Action _ σ _)
  keeps_lookupMany (fits : Signature → TagId → Prop) (loaded : Bool)
    (signatures : List Signature) :
    Action.Keeps (OnlyHolds fits loaded) (IdCache.lookupMany signatures : Action _ σ _)
  keeps_record {fits : Signature → TagId → Prop} {loaded : Bool} {signature : Signature}
    {id : TagId} : fits signature id →
      Action.Keeps (OnlyHolds fits loaded) (IdCache.record signature id : Action _ σ _)

namespace SharedCache

variable {σ : Type} {cache : SharedCache σ}

theorem entryKey_injective (cache : SharedCache σ) : Function.Injective cache.entryKey := by
  rintro ⟨first⟩ ⟨second⟩ same
  have texts := congrArg String.toList same
  simp only [entryKey, String.toList_append, List.append_cancel_left_eq] at texts
  rw [String.ext texts]

@[simp] theorem runFrom_onStore {α : Type} (action : Action StoreRefusal σ α)
    (cache : SharedCache σ) : (onStore action).runFrom cache =
      ((action.runFrom cache.store).1.mapError .ofRefusal,
        { cache with store := (action.runFrom cache.store).2 }) := rfl

variable [KeyValueStore σ] [HonestStore σ] {fits : Signature → TagId → Prop}
  {loaded : Bool}

/-- The text that the store has for a signature. -/
def text? (cache : SharedCache σ) (signature : Signature) : Option String :=
  TextStore.text? cache.store (cache.entryKey signature)

structure OnlyHolds (fits : Signature → TagId → Prop) (loaded : Bool) (cache : SharedCache σ) :
    Prop where
  ready : loaded = true → cache.ready = true
  fit (signature : Signature) (text : String) : cache.text? signature = some text →
    ∃ id, text = id.text ∧ fits signature id

theorem keeps_onStore {α : Type} {action : Action StoreRefusal σ α}
    (kept : ∀ texts, Action.Keeps (fun store => TextStore.text? store = texts) action) :
    Action.Keeps (OnlyHolds fits loaded) (onStore action) := by
  intro cache held
  refine ⟨held.ready, fun signature text found => held.fit signature text ?_⟩
  rw [text?, ← kept _ cache.store rfl]
  exact found

theorem keeps_requireReady :
    Action.Keeps (OnlyHolds fits loaded) (requireReady : Action _ (SharedCache σ) _) := by
  intro cache held
  unfold requireReady
  cases ready : cache.ready <;> simpa [Action.runFrom_bind, ready] using held

/-- A store changed only by good entries holds only good ones. -/
private theorem onlyHolds_of_changes {store : σ} (held : OnlyHolds fits loaded cache)
    (changes : ∀ name, TextStore.text? store name = TextStore.text? cache.store name ∨
      ∃ signature id, fits signature id ∧ name = cache.entryKey signature ∧
        TextStore.text? store name = some id.text) :
    OnlyHolds fits loaded { cache with store } := by
  refine ⟨held.ready, fun signature text found => ?_⟩
  rcases changes (cache.entryKey signature) with same | ⟨other, id, good, key, new⟩
  · exact held.fit signature text (same.symm.trans found)
  · obtain rfl := cache.entryKey_injective key
    have texts := new.symm.trans found
    exact ⟨id, (Option.some.inj texts).symm, good⟩

private theorem keeps_load {entries : List (Signature × TagId)}
    (good : ∀ entry ∈ entries, fits entry.1 entry.2) :
    Action.Keeps (OnlyHolds fits loaded) (load entries : Action _ (SharedCache σ) _) := by
  have readied : Action.Keeps (OnlyHolds fits loaded)
      (modify fun cache => { cache with ready := true } : Action CacheFault (SharedCache σ) PUnit) :=
    .modify fun _ held => ⟨fun _ => rfl, held.fit⟩
  refine .get_bind ?_
  intro cache held
  by_cases filled : entries = []
  · rw [if_neg (not_not_intro filled)]
    exact readied cache held
  · rw [if_pos filled]
    refine Action.Keeps.bind_of (onlyHolds_of_changes held fun name => ?_) fun _ => readied
    rcases HonestStore.changes_of_setMany cache.store (entries.map fun entry =>
      (cache.entryKey entry.1, entry.2.text)) name with same | ⟨value, member, new⟩
    · exact .inl same
    · obtain ⟨entry, inside, same⟩ := List.mem_map.mp member
      cases same
      exact .inr ⟨entry.1, entry.2, good entry inside, rfl, new⟩

private theorem keeps_record {signature : Signature} {id : TagId} (good : fits signature id) :
    Action.Keeps (OnlyHolds fits loaded)
      (IdCache.record signature id : Action _ (SharedCache σ) _) := by
  refine .get_bind ?_
  intro cache held
  apply onlyHolds_of_changes held
  intro name
  rcases HonestStore.changes_of_set cache.store (cache.entryKey signature) id.text name with
    same | ⟨key, new⟩
  · exact .inl same
  · exact .inr ⟨signature, id, good, key, new⟩

private theorem keeps_lookup (signature : Signature) :
    Action.Keeps (OnlyHolds fits loaded) (lookup signature : Action _ (SharedCache σ) _) := by
  refine keeps_requireReady.bind fun _ => Action.Keeps.get.bind fun cache => ?_
  refine (keeps_onStore fun texts => HonestStore.keeps_get texts _).bind fun answer => ?_
  cases answer with
  | none => exact .throw _
  | some text => exact .ofExcept _

private theorem keeps_lookupMany (signatures : List Signature) :
    Action.Keeps (OnlyHolds fits loaded) (lookupMany signatures : Action _ (SharedCache σ) _) := by
  apply keeps_requireReady.bind
  intro _
  by_cases empty : signatures = []
  · rw [if_pos empty]
    exact .pure _
  · rw [if_neg empty]
    refine Action.Keeps.get.bind ?_
    intro cache
    refine (keeps_onStore fun texts => HonestStore.keeps_getMany texts _).bind fun answers => ?_
    by_cases short : answers.length ≠ signatures.length
    · rw [if_pos short]
      exact (Action.Keeps.throw _).bind fun _ => (Action.Keeps.ofExcept _).bind fun _ => .pure _
    · rw [if_neg short]
      exact (Action.Keeps.ofExcept _).bind fun _ => .pure _

instance : BoundedCache (SharedCache σ) where
  OnlyHolds := OnlyHolds
  onlyHolds_imp weaken held := by
    refine ⟨held.ready, fun signature text found => ?_⟩
    obtain ⟨id, written, good⟩ := held.fit signature text found
    exact ⟨id, written, weaken signature id good⟩
  keeps_load := keeps_load
  keeps_lookup _ _ := keeps_lookup
  keeps_lookupMany _ _ := keeps_lookupMany
  keeps_record := keeps_record

end SharedCache

end TagQuery
