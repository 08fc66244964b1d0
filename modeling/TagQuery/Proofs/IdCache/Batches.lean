import TagQuery.IdCache.Unreliable
import TagQuery.Proofs.IdCache.Reliable
import TagQuery.Proofs.KeyValueStore.Texts
import TagQuery.Proofs.OrderedMap.Written

/-! What a batch look-up gives, and what looking its signatures up one by one gives. -/

namespace TagQuery

/-- The entries that single answers give, up to the first fault that is not about a signature. -/
def entriesFound (answer : Signature → Except CacheFault TagId) :
    List Signature → Except CacheFault (List (Signature × TagId))
  | [] => .ok []
  | signature :: rest =>
    match answer signature with
    | .ok id => (entriesFound answer rest).map ((signature, id) :: ·)
    | .error (.notFound _) => entriesFound answer rest
    | .error fault => .error fault

section OneByOne

variable {σ : Type} (lookup : Signature → Action CacheFault σ TagId)

/-- One step of looking a batch up. -/
private def resolveNext (resolved : Resolution) (signature : Signature) :
    Action CacheFault σ Resolution := do
  match ← (lookup signature).attempt with
  | .ok id => return resolved.insert signature id
  | .error (.notFound _) => return resolved
  | .error fault => throw fault

private theorem runFrom_resolveNext (resolved : Resolution) (signature : Signature) (cache : σ) :
    (resolveNext lookup resolved signature).runFrom cache =
      match (lookup signature).runFrom cache with
      | (.ok id, after) => (.ok (resolved.insert signature id), after)
      | (.error (.notFound _), after) => (.ok resolved, after)
      | (.error fault, after) => (.error fault, after) := by
  unfold resolveNext
  rw [Action.runFrom_bind, Action.runFrom_attempt]
  rcases (lookup signature).runFrom cache with ⟨fault | id, after⟩
  · cases fault <;> rfl
  · rfl

variable {lookup}

/-- Look-ups that leave the cache as it is give the entries of their answers. -/
theorem runFrom_resolveEach_of_steady {cache : σ} {answer : Signature → Except CacheFault TagId}
    (steady : ∀ signature, (lookup signature).runFrom cache = (answer signature, cache))
    (signatures : List Signature) : (resolveEach lookup signatures).runFrom cache =
      ((entriesFound answer signatures).map .ofList, cache) := by
  change (signatures.foldlM (resolveNext lookup) OrderedMap.empty).runFrom cache = _
  unfold OrderedMap.ofList
  generalize (OrderedMap.empty : Resolution) = known
  induction signatures generalizing known with
  | nil => rfl
  | cons signature rest ih =>
    have next := runFrom_resolveNext lookup known signature cache
    rw [steady] at next
    rw [List.foldlM_cons, entriesFound]
    rcases answered : answer signature with fault | id <;> rw [answered] at next
    · cases fault with
      | notFound name => exact (Action.runFrom_bind_of_ok next).trans (ih known)
      | unavailable reason => exact Action.runFrom_bind_of_error next
      | notReady => exact Action.runFrom_bind_of_error next
      | invalidEntry key value => exact Action.runFrom_bind_of_error next
    · refine (Action.runFrom_bind_of_ok next).trans ((ih _).trans ?_)
      cases entriesFound answer rest <;> rfl

/-- A signature that is not found is no fault of its batch. -/
theorem resolveEach_ne_notFound (signatures : List Signature) (cache : σ) (name : Signature) :
    ((resolveEach lookup signatures).runFrom cache).1 ≠ .error (.notFound name) := by
  change ((signatures.foldlM (resolveNext lookup) OrderedMap.empty).runFrom cache).1 ≠ _
  generalize (OrderedMap.empty : Resolution) = known
  induction signatures generalizing cache known with
  | nil => exact nofun
  | cons signature rest ih =>
    rw [List.foldlM_cons, Action.runFrom_bind, runFrom_resolveNext]
    rcases (lookup signature).runFrom cache with ⟨fault | id, after⟩
    · cases fault with
      | notFound absent => exact ih after known
      | unavailable reason => exact nofun
      | notReady => exact nofun
      | invalidEntry key value => exact nofun
    · exact ih after (known.insert signature id)

end OneByOne

/-- A cache that leaves out of its answer to a batch what it does not have. -/
def IdCache.OmitsAbsent (σ : Type) [IdCache σ] : Prop :=
  ∀ (cache : σ) (signatures : List Signature) (name : Signature),
    ((lookupMany signatures).runFrom cache).1 ≠ .error (.notFound name)

theorem ResidentCache.omitsAbsent : IdCache.OmitsAbsent ResidentCache := by
  intro cache signatures name
  rw [runFrom_lookupMany]
  split <;> exact nofun

theorem UnreliableCache.omitsAbsent : IdCache.OmitsAbsent UnreliableCache :=
  fun cache signatures name => resolveEach_ne_notFound signatures cache name

/-- What is no identifier is a fault of its entry. -/
private theorem SharedCache.resolveAnswers_ne_notFound {σ : Type} (cache : SharedCache σ)
    (answers : List (Signature × Option String)) (name : Signature) :
    cache.resolveAnswers answers ≠ .error (.notFound name) := by
  intro failed
  induction answers with
  | nil => cases failed
  | cons answer rest ih =>
    obtain ⟨signature, _ | text⟩ := answer
    · exact ih failed
    · rw [resolveAnswers, readId] at failed
      cases read : Number.readInt64? text with
      | none =>
        rw [read] at failed
        cases failed
      | some number =>
        rw [read] at failed
        cases others : cache.resolveAnswers rest with
        | error fault =>
          rw [others] at failed
          cases failed
          exact ih others
        | ok entries =>
          rw [others] at failed
          cases failed

theorem SharedCache.omitsAbsent (σ : Type) [KeyValueStore σ] :
    IdCache.OmitsAbsent (SharedCache σ) := by
  intro cache signatures name
  rw [runFrom_lookupMany_store]
  split
  · split
    · exact nofun
    · rcases (KeyValueStore.getMany (signatures.map cache.entryKey)).runFrom cache.store with
        ⟨refusal | answers, store⟩
      · exact nofun
      · dsimp only
        split
        · rw [ne_eq, Outcome.map_error_iff]
          exact cache.resolveAnswers_ne_notFound _ name
        · exact nofun
  · exact nofun

/-- A cache whose answer to a batch is about signatures of the batch, and about each of them once. -/
class AskedCache (σ : Type) [IdCache σ] : Prop where
  keys_of_lookupMany {cache after : σ} {signatures : List Signature} {resolved : Resolution} :
    (IdCache.lookupMany signatures).runFrom cache = (.ok resolved, after) →
      resolved.keys.Nodup ∧ resolved.keys ⊆ signatures

private theorem keys_resolution {entries : List (Signature × TagId)} {signatures : List Signature}
    (asked : entries.map Prod.fst ⊆ signatures) : (OrderedMap.ofList entries).keys.Nodup ∧
      (OrderedMap.ofList entries).keys ⊆ signatures := by
  rw [OrderedMap.keys_ofList]
  exact ⟨nodup_eraseDups _, fun name member => asked (List.mem_eraseDups.mp member)⟩

instance : AskedCache ResidentCache where
  keys_of_lookupMany {cache _ signatures _} ran := by
    rw [ResidentCache.runFrom_lookupMany] at ran
    split at ran
    · cases ran
      refine keys_resolution fun name member => ?_
      simp only [ResidentCache.known, List.mem_map, List.mem_filterMap,
        Option.map_eq_some_iff] at member
      obtain ⟨_, ⟨asked, inside, _, _, rfl⟩, rfl⟩ := member
      exact inside
    · cases ran

/-- What the answers of a store are read as is about the signatures that they answer. -/
private theorem SharedCache.keys_resolveAnswers {σ : Type} {cache : SharedCache σ}
    {answers : List (Signature × Option String)} {entries : List (Signature × TagId)}
    (read : cache.resolveAnswers answers = .ok entries) :
    entries.map Prod.fst ⊆ answers.map Prod.fst := by
  induction answers generalizing entries with
  | nil =>
    cases read
    exact List.Subset.refl []
  | cons answer rest ih =>
    obtain ⟨signature, _ | text⟩ := answer
    · exact List.subset_cons_of_subset signature (ih read)
    · obtain ⟨id, _, more⟩ := Outcome.of_bind_ok read
      obtain ⟨others, later, same⟩ := Outcome.of_bind_ok more
      cases same
      exact List.cons_subset_cons signature (ih later)

instance {σ : Type} [KeyValueStore σ] : AskedCache (SharedCache σ) where
  keys_of_lookupMany {cache after signatures resolved} ran := by
    rw [SharedCache.runFrom_lookupMany_store] at ran
    split at ran
    · split at ran
      · cases ran
        have asked : ([] : List (Signature × TagId)).map Prod.fst ⊆ signatures := List.nil_subset _
        exact keys_resolution asked
      · split at ran
        · split at ran
          · obtain ⟨answered, _⟩ := Prod.mk.inj ran
            obtain ⟨entries, read, rfl⟩ := Outcome.of_map_ok answered
            refine keys_resolution (List.Subset.trans (SharedCache.keys_resolveAnswers read) ?_)
            intro name member
            obtain ⟨pair, inside, rfl⟩ := List.mem_map.mp member
            exact (List.of_mem_zip inside).1
          · cases ran
        · cases ran
    · cases ran

/-- A batch is looked up in the process as it is one by one. -/
theorem ResidentCache.lookupMany_eq_resolveEach {cache : ResidentCache} (ready : cache.ready = true)
    (signatures : List Signature) : (IdCache.lookupMany signatures).runFrom cache =
      (resolveEach IdCache.lookup signatures).runFrom cache := by
  have one (signature : Signature) : (IdCache.lookup signature).runFrom cache =
      ((cache.entries.get? signature).elim (.error (.notFound signature)) .ok, cache) := by
    rw [runFrom_lookup, if_pos ready]
    cases cache.entries.get? signature <;> rfl
  have found : entriesFound (fun signature => (cache.entries.get? signature).elim
      (.error (.notFound signature)) .ok) signatures = .ok (cache.known signatures) := by
    unfold known
    induction signatures with
    | nil => rfl
    | cons signature rest ih =>
      rw [entriesFound, ih, List.filterMap_cons]
      cases cache.entries.get? signature <;> rfl
  rw [runFrom_lookupMany, if_pos ready, runFrom_resolveEach_of_steady one, found]
  rfl

namespace SharedCache

variable {σ : Type}

/-- What single answers of a store in the process give is read from the answers to a batch. -/
private theorem entriesFound_eq_resolveAnswers (cache : SharedCache LocalStore)
    (text? : Signature → Option String) (signatures : List Signature) :
    entriesFound (fun signature => (text? signature).elim (.error (.notFound signature))
        (readId (cache.entryKey signature))) signatures =
      cache.resolveAnswers (signatures.zip (signatures.map text?)) := by
  induction signatures with
  | nil => rfl
  | cons signature rest ih =>
    rw [entriesFound, ih, List.map_cons, List.zip_cons_cons]
    cases text? signature with
    | none => rfl
    | some text =>
      rw [resolveAnswers, Option.elim_some, readId]
      cases Number.readInt64? text with
      | none => rfl
      | some number => cases cache.resolveAnswers (rest.zip (rest.map text?)) <;> rfl

/-- A store in the process is asked for a batch as it is for each of its keys. What is no
identifier there ends both at the same place. -/
theorem lookupMany_eq_resolveEach {cache : SharedCache LocalStore} (ready : cache.ready = true)
    (signatures : List Signature) : (IdCache.lookupMany signatures).runFrom cache =
      (resolveEach IdCache.lookup signatures).runFrom cache := by
  have one (signature : Signature) : (IdCache.lookup signature).runFrom cache =
      ((cache.store.entries.get? (cache.entryKey signature)).elim (.error (.notFound signature))
        (readId (cache.entryKey signature)), cache) := by
    refine (runFrom_lookup cache signature).trans ?_
    rw [if_pos ready]
  rw [runFrom_resolveEach_of_steady one, entriesFound_eq_resolveAnswers]
  refine (runFrom_lookupMany cache signatures).trans ?_
  rw [if_pos ready]

/-- What is known once the store has answered for one signature more. -/
private def absorb (cache : SharedCache σ) (known : Resolution) (signature : Signature) :
    Option String → Except CacheFault Resolution
  | none => .ok known
  | some text => (readId (cache.entryKey signature) text).map (known.insert signature)

private theorem map_resolveAnswers_cons (cache : SharedCache σ) (known : Resolution)
    (signature : Signature) (answer : Option String) (rest : List (Signature × Option String)) :
    (cache.resolveAnswers ((signature, answer) :: rest)).map known.insertMany =
      (cache.absorb known signature answer >>= fun known =>
        (cache.resolveAnswers rest).map known.insertMany) := by
  cases answer with
  | none => rfl
  | some text =>
    rw [resolveAnswers, absorb, readId]
    cases Number.readInt64? text with
    | none => rfl
    | some number => cases cache.resolveAnswers rest <;> rfl

variable [KeyValueStore σ]

/-- One step of a batch that is looked up one by one asks the store for one key. -/
private theorem runFrom_resolveNext_store {cache : SharedCache σ} (ready : cache.ready = true)
    (known : Resolution) (signature : Signature) :
    (resolveNext IdCache.lookup known signature).runFrom cache =
      match (KeyValueStore.get (cache.entryKey signature)).runFrom cache.store with
      | (.ok answer, store) => (cache.absorb known signature answer, { cache with store })
      | (.error refusal, store) => (.error (.ofRefusal refusal), { cache with store }) := by
  rw [runFrom_resolveNext, runFrom_lookup_store, if_pos ready]
  rcases (KeyValueStore.get (cache.entryKey signature)).runFrom cache.store with
    ⟨refusal | _ | text, store⟩
  · rfl
  · rfl
  · dsimp only
    rw [absorb, readId]
    cases Number.readInt64? text <;> rfl

/-- Looking a batch up one by one succeeds when every key is answered for, and with an identifier
if with anything. -/
private theorem runFrom_foldlM_ok_iff {cache after : SharedCache σ} (ready : cache.ready = true)
    {store : σ} {known resolved : Resolution} {signatures : List Signature} :
    (signatures.foldlM (resolveNext IdCache.lookup) known).runFrom { cache with store } =
        (.ok resolved, after) ↔
      ∃ answers later, ((signatures.map cache.entryKey).mapM KeyValueStore.get).runFrom store =
        (.ok answers, later) ∧ after = { cache with store := later } ∧
        (cache.resolveAnswers (signatures.zip answers)).map known.insertMany = .ok resolved := by
  induction signatures generalizing store known with
  | nil =>
    constructor
    · intro ran
      cases ran
      exact ⟨[], _, rfl, rfl, rfl⟩
    · rintro ⟨answers, later, asked, rfl, made⟩
      cases asked
      cases made
      rfl
  | cons signature rest ih =>
    have next : (resolveNext IdCache.lookup known signature).runFrom { cache with store } =
        match (KeyValueStore.get (cache.entryKey signature)).runFrom store with
        | (.ok answer, store) => (cache.absorb known signature answer, { cache with store })
        | (.error refusal, store) => (.error (.ofRefusal refusal), { cache with store }) :=
      runFrom_resolveNext_store (show ({ cache with store } : SharedCache σ).ready from ready) _ _
    rw [List.foldlM_cons, List.map_cons, List.mapM_cons, Action.runFrom_bind, Action.runFrom_bind,
      next]
    rcases (KeyValueStore.get (cache.entryKey signature)).runFrom store with
      ⟨refusal | answer, middle⟩
    · exact iff_of_false nofun fun ⟨_, _, asked, _⟩ => nomatch asked
    · dsimp only
      constructor
      · intro ran
        cases absorbed : cache.absorb known signature answer with
        | error fault =>
          rw [absorbed] at ran
          cases ran
        | ok more =>
          rw [absorbed] at ran
          obtain ⟨others, later, asked, rfl, made⟩ := ih.mp ran
          refine ⟨answer :: others, later, Action.runFrom_bind_of_ok asked, rfl, ?_⟩
          rw [List.zip_cons_cons, map_resolveAnswers_cons, absorbed]
          exact made
      · rintro ⟨answers, later, asked, rfl, made⟩
        obtain ⟨others, _, tail, last⟩ := Action.of_runFrom_bind_ok asked
        cases last
        rw [List.zip_cons_cons, map_resolveAnswers_cons] at made
        obtain ⟨more, absorbed, made⟩ := Outcome.of_bind_ok made
        rw [absorbed]
        exact ih.mpr ⟨others, _, tail, rfl, made⟩

end SharedCache

/-- A store that has no way of its own to answer a batch. -/
def KeyValueStore.GetsEach {σ : Type} [KeyValueStore σ] (store : σ) : Prop :=
  ∀ keys : List String,
    (KeyValueStore.getMany keys).runFrom store = (keys.mapM KeyValueStore.get).runFrom store

namespace SharedCache

variable {σ : Type} [KeyValueStore σ] {cache : SharedCache σ}

/-- Both ways to ask for a batch succeed together. They need not fail alike: a key that the store
refuses fails a batch before what another key holds is read. -/
theorem lookupMany_ok_iff (ready : cache.ready = true)
    (gets : KeyValueStore.GetsEach cache.store) (signatures : List Signature)
    (resolved : Resolution) (after : SharedCache σ) :
    (IdCache.lookupMany signatures).runFrom cache = (.ok resolved, after) ↔
      (resolveEach IdCache.lookup signatures).runFrom cache = (.ok resolved, after) := by
  refine Iff.trans ?_ (runFrom_foldlM_ok_iff ready).symm
  rw [runFrom_lookupMany_store, if_pos ready]
  by_cases empty : signatures = []
  · subst empty
    rw [if_pos rfl]
    constructor
    · intro ran
      cases ran
      exact ⟨[], _, rfl, rfl, rfl⟩
    · rintro ⟨answers, later, asked, rfl, made⟩
      cases asked
      cases made
      rfl
  · rw [if_neg empty, gets]
    rcases asked : ((signatures.map cache.entryKey).mapM KeyValueStore.get).runFrom cache.store with
      ⟨refusal | answers, later⟩
    · exact iff_of_false nofun fun ⟨_, _, answered, _⟩ => nomatch answered
    · have full := Action.length_of_runFrom_mapM_ok asked
      rw [List.length_map] at full
      dsimp only
      rw [if_pos full]
      constructor
      · intro ran
        obtain ⟨made, rfl⟩ := Prod.mk.inj ran
        exact ⟨answers, later, rfl, rfl, made⟩
      · rintro ⟨_, _, answered, rfl, made⟩
        cases answered
        exact Prod.ext made rfl

/-- No identifier is read from an answer of the wrong length. -/
theorem runFrom_lookupMany_of_length_ne (ready : cache.ready = true) {signatures : List Signature}
    (some : signatures ≠ []) {answers : List (Option String)} {store : σ}
    (asked : (KeyValueStore.getMany (signatures.map cache.entryKey)).runFrom cache.store =
      (.ok answers, store))
    (wrong : answers.length ≠ signatures.length) :
    (IdCache.lookupMany signatures).runFrom cache =
      (.error (.unavailable ("store answered " ++ Number.writeNat answers.length ++ " of " ++
        Number.writeNat signatures.length ++ " keys")), { cache with store }) := by
  rw [runFrom_lookupMany_store, if_pos ready, if_neg some, asked]
  dsimp only
  rw [if_neg wrong]

end SharedCache

/-- A store that refuses keys has no way of its own to answer a batch, unless answers get lost. -/
theorem UnreliableStore.getsEach {unreliable : UnreliableStore}
    (complete : unreliable.arriving = none) : KeyValueStore.GetsEach unreliable := by
  intro keys
  have steady (key : String) :
      Action.Keeps (fun after : UnreliableStore => after.arriving = none) (getOne key) := by
    intro before held
    rw [runFrom_getOne]
    exact held
  have each : Action.Keeps (fun after : UnreliableStore => after.arriving = none)
      (keys.mapM getOne) := .mapM fun key _ => steady key
  have kept := each unreliable complete
  change ((keys.mapM getOne) >>= fun answers => _).runFrom unreliable =
    (keys.mapM getOne).runFrom unreliable
  rcases asked : (keys.mapM getOne).runFrom unreliable with ⟨refusal | answers, after⟩
  · exact Action.runFrom_bind_of_error asked
  · rw [asked] at kept
    rw [Action.runFrom_bind_of_ok asked, Action.runFrom_bind_of_ok (Action.runFrom_get after), kept]
    rfl

/-- A batch look-up and the one by one agree. In the process and over a store in the process they
do the same. Over a store that is asked for each key they succeed together, with the same
identifiers. A store that answers for more or fewer keys than it was asked for makes the cache
unavailable. -/
theorem IdCache.lookupMany_agrees (signatures : List Signature) :
    (∀ cache : ResidentCache, cache.ready → (lookupMany signatures).runFrom cache =
      (resolveEach lookup signatures).runFrom cache) ∧
    (∀ cache : SharedCache LocalStore, cache.ready → (lookupMany signatures).runFrom cache =
      (resolveEach lookup signatures).runFrom cache) ∧
    ∀ {σ : Type} [KeyValueStore σ] (cache : SharedCache σ), cache.ready →
      (KeyValueStore.GetsEach cache.store → ∀ resolved after,
        (lookupMany signatures).runFrom cache = (.ok resolved, after) ↔
          (resolveEach lookup signatures).runFrom cache = (.ok resolved, after)) ∧
      ∀ answers store, signatures ≠ [] →
        (KeyValueStore.getMany (signatures.map cache.entryKey)).runFrom cache.store =
          (.ok answers, store) → answers.length ≠ signatures.length →
        (lookupMany signatures).runFrom cache =
          (.error (.unavailable ("store answered " ++ Number.writeNat answers.length ++ " of " ++
            Number.writeNat signatures.length ++ " keys")), { cache with store }) := by
  refine ⟨fun _ ready => ResidentCache.lookupMany_eq_resolveEach ready signatures,
    fun _ ready => SharedCache.lookupMany_eq_resolveEach ready signatures,
    fun _ ready => ⟨fun gets => SharedCache.lookupMany_ok_iff ready gets signatures, ?_⟩⟩
  intro answers store some asked wrong
  exact SharedCache.runFrom_lookupMany_of_length_ne ready some asked wrong

/-- A batch with a repetition and a tag that is not known, asked for in the process, where an entry
is no identifier, where another key is refused and where an answer is lost. -/
theorem IdCache.lookupMany_agrees_refused :
    let signatures : List Signature := [⟨"jazz"⟩, ⟨"live"⟩, ⟨"jazz"⟩]
    let resident : ResidentCache := ⟨⟨[(⟨"jazz"⟩, ⟨1⟩)]⟩, true⟩
    let spoiled : SharedCache LocalStore :=
      ⟨⟨⟨[("tag:jazz", "1"), ("tag:live", "soon")]⟩⟩, "tag:", true⟩
    let refusing : SharedCache UnreliableStore :=
      ⟨⟨⟨⟨[("tag:jazz", "1")]⟩⟩, (· = "tag:rock"), (· = "tag:rock"), "refused", none⟩, "tag:", true⟩
    let short : SharedCache UnreliableStore :=
      ⟨⟨⟨⟨[("tag:jazz", "1")]⟩⟩, fun _ => false, fun _ => false, "refused", some 2⟩, "tag:", true⟩
    (resolveEach lookup signatures).runFrom resident = (.ok ⟨[(⟨"jazz"⟩, ⟨1⟩)]⟩, resident) ∧
      (resolveEach lookup signatures).runFrom spoiled =
        (.error (.invalidEntry "tag:live" "soon"), spoiled) ∧
      (resolveEach lookup signatures).runFrom refusing = (.ok ⟨[(⟨"jazz"⟩, ⟨1⟩)]⟩, refusing) ∧
      (lookupMany signatures).runFrom short =
        (.error (.unavailable "store answered 2 of 3 keys"), short) := by
  intro signatures resident spoiled refusing short
  have agree := IdCache.lookupMany_agrees signatures
  refine ⟨?_, ?_, ?_, ?_⟩
  · exact (agree.1 resident rfl).symm.trans rfl
  · exact (agree.2.1 spoiled rfl).symm.trans rfl
  · exact ((agree.2.2 refusing rfl).1 (UnreliableStore.getsEach rfl) _ _).mp rfl
  · have text : "store answered " ++ Number.writeNat 2 ++ " of " ++ Number.writeNat 3 ++ " keys" =
        "store answered 2 of 3 keys" := by decide
    rw [← text]
    exact (agree.2.2 short rfl).2 [some "1", none] short.store (by decide) rfl (by decide)

end TagQuery
