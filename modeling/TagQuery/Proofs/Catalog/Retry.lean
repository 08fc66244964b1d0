import TagQuery.Proofs.Catalog.Reachable
import TagQuery.Proofs.Catalog.ResidentTables
import TagQuery.Proofs.Catalog.Willing
import TagQuery.Proofs.Tag.Parse

/-! Attaching a tag once more, when the cache refuses nothing. -/

namespace TagQuery

namespace Catalog

variable {σ ξ : Type} [KeyValueStore σ] [HonestStore σ] [Executor ξ] {schema : Schema}
  {store : TagStore schema ξ} {loaded : Bool} {catalog : Catalog (SharedCache σ) ξ} {raw : String}

/-- Asked when nothing is refused, a tag that the cache knows is attached. -/
theorem attachTag_of_known (sound : store.Sound loaded catalog) (willing : catalog.cache.Willing)
    (entity : Int64) (type : TagKind) (named : (Tag.parse raw).key ≠ "") {text : String}
    (known : catalog.cache.text? (Tag.parse raw).signature = some text) :
    ∃ new after, (attachTag entity raw type).runFrom catalog = (.ok new, after) ∧
      (store.contents after.executor).CarriesSome entity fun record =>
        record.signature = (Tag.parse raw).signature := by
  obtain ⟨id, rfl, record, member, same, rfl⟩ := sound.cached.fit _ _ known
  obtain ⟨texts, asked, still, kept⟩ :=
    SharedCache.runFrom_lookup_of_willing willing (Tag.parse raw).signature
  have known' := (congrFun kept _).trans known
  rw [known] at asked
  simp only [SharedCache.readId_text] at asked
  rw [runFrom_attachTag_of_ok asked]
  exact addTag_of_known (sound.with_texts kept) ⟨willing.1, still⟩ entity (Tag.check_parse named)
    member same known'

/-- A tag that is not stored is stored, made known and attached. -/
theorem attachTag_of_unstored (sound : store.Sound loaded catalog) (willing : catalog.cache.Willing)
    (entity : Int64) (type : TagKind) (named : (Tag.parse raw).key ≠ "")
    (unstored : (Tag.parse raw).signature ∉ (store.contents catalog.executor).signatures) :
    ∃ new after, (attachTag entity raw type).runFrom catalog = (.ok new, after) ∧
      (store.contents after.executor).CarriesSome entity fun record =>
        record.signature = (Tag.parse raw).signature := by
  obtain ⟨texts, asked, still, kept⟩ :=
    SharedCache.runFrom_lookup_of_willing willing (Tag.parse raw).signature
  have unknown : catalog.cache.text? (Tag.parse raw).signature = none := by
    refine Option.eq_none_iff_forall_not_mem.mpr fun text known => unstored ?_
    obtain ⟨id, rfl, record, member, same, rfl⟩ := sound.cached.fit _ _ known
    exact List.mem_map.mpr ⟨record, member, same⟩
  rw [unknown] at asked
  obtain ⟨record, middle, created, same, willing', known, grown⟩ :=
    createTags_of_unstored (sound.with_texts kept) ⟨willing.1, still⟩ type (Tag.check_parse named)
      unstored
  rw [runFrom_attachTag_of_notFound asked created]
  have sound' : store.Sound loaded middle := by
    have kept := keeps_createTags [⟨Tag.parse raw, type⟩] _ (sound.with_texts kept)
    rwa [created] at kept
  refine addTag_of_known sound' willing' entity (Tag.check_parse named) ?_ same known
  rw [grown]
  exact List.mem_append_right _ (List.mem_singleton_self record)

/-- A stored tag that the cache does not know stays unknown, and nothing is attached. -/
theorem attachTag_of_forgotten (sound : store.Sound loaded catalog) (willing : catalog.cache.Willing)
    (entity : Int64) (type : TagKind) (named : (Tag.parse raw).key ≠ "")
    (stored : (Tag.parse raw).signature ∈ (store.contents catalog.executor).signatures)
    (unknown : catalog.cache.text? (Tag.parse raw).signature = none) :
    ∃ after, (attachTag entity raw type).runFrom catalog =
        (.error (.ofQuery (.unknownTag (Tag.parse raw).signature)), after) ∧
      store.contents after.executor = store.contents catalog.executor := by
  obtain ⟨texts, asked, still, kept⟩ :=
    SharedCache.runFrom_lookup_of_willing willing (Tag.parse raw).signature
  have unknown' := (congrFun kept _).trans unknown
  rw [unknown] at asked
  obtain ⟨middle, created, cache, same⟩ :=
    createTags_of_stored (sound.with_texts kept) type (Tag.check_parse named) stored
  have willing' : middle.cache.Willing := by
    rw [cache]
    exact ⟨willing.1, still⟩
  obtain ⟨after, refused, executor⟩ :=
    addTag_of_unknown willing' entity (Tag.check_parse named) (cache ▸ unknown')
  refine ⟨after, (runFrom_attachTag_of_notFound asked created).trans refused, ?_⟩
  rw [executor, same]

/-- A catalog on empty tables whose cache refuses what it is told to. -/
def resident (refusesGet refusesSet : String → Bool) :
    Catalog (SharedCache UnreliableStore) ResidentTables where
  schema := {}
  schema_checked := rfl
  cache := { store := { refusesGet, refusesSet }, keyStart := "tag:", ready := true }
  executor := {}

theorem resident_reachable (refusesGet refusesSet : String → Bool) :
    ResidentTables.tagStore.Reachable (resident refusesGet refusesSet) := by
  refine .start rfl List.nodup_nil ⟨fun _ => rfl, fun signature text found => ?_⟩
  cases found

/-- The store once it refuses nothing any more. -/
def calmed (unreliable : UnreliableStore) : UnreliableStore :=
  { unreliable with refusesGet := fun _ => false, refusesSet := fun _ => false }

theorem text?_calmed (unreliable : UnreliableStore) :
    TextStore.text? (calmed unreliable) = TextStore.text? unreliable :=
  rfl

theorem willing_calmed (unreliable : UnreliableStore) : HonestStore.Willing (calmed unreliable) :=
  fun _ => ⟨rfl, rfl⟩

/-- A call that failed is made once more, and now the cache refuses nothing. It succeeds and
attaches the tag, unless the store has the tag and the cache does not know it. Then the
failure is for good: a tag that was stored before is not offered to the cache again. -/
theorem attachTag_again {after : Catalog (SharedCache σ) ξ} {entity : Int64} {type : TagKind}
    {failure : Failure} {calm : σ} (reachable : store.Reachable catalog)
    (ready : catalog.cache.ready = true) (named : (Tag.parse raw).key ≠ "")
    (failed : (attachTag entity raw type).runFrom catalog = (.error failure, after))
    (same : TextStore.text? calm = TextStore.text? after.cache.store)
    (willing : HonestStore.Willing calm) :
    (¬store.Forgets after (Tag.parse raw).signature →
      ∃ new final, (attachTag entity raw type).runFrom
          { after with cache := { after.cache with store := calm } } = (.ok new, final) ∧
        (store.contents final.executor).CarriesSome entity fun record =>
          record.signature = (Tag.parse raw).signature) ∧
    (store.Forgets after (Tag.parse raw).signature →
      ∃ final, (attachTag entity raw type).runFrom
          { after with cache := { after.cache with store := calm } } =
            (.error (.ofQuery (.unknownTag (Tag.parse raw).signature)), final) ∧
        store.contents final.executor = store.contents after.executor) := by
  have before := reachable.sound.loaded ready
  have left := keeps_attachTag entity raw type catalog before
  rw [failed] at left
  have sound := left.with_texts same
  have willing' : ({ after.cache with store := calm } : SharedCache σ).Willing :=
    ⟨left.cached.ready rfl, willing⟩
  have heard (signature : Signature) :
      ({ after.cache with store := calm } : SharedCache σ).text? signature =
        after.cache.text? signature := by
    rw [SharedCache.text?, same]
    rfl
  constructor
  · intro remembered
    cases known : after.cache.text? (Tag.parse raw).signature with
    | some text => exact attachTag_of_known sound willing' entity type named ((heard _).trans known)
    | none =>
      apply attachTag_of_unstored sound willing' entity type named
      intro stored
      exact remembered ⟨stored, known⟩
  · rintro ⟨stored, unknown⟩
    exact attachTag_of_forgotten sound willing' entity type named stored ((heard _).trans unknown)

/-- The look-up of a new tag was refused. The next call stores the tag and attaches it. -/
theorem attachTag_again_sample :
    ∃ failure after new final,
      (attachTag 1 "x" .ordinary).runFrom (resident (· = "tag:x") fun _ => false) =
        (.error failure, after) ∧ failure.isRetryable = true ∧
      (attachTag 1 "x" .ordinary).runFrom
          { after with cache := { after.cache with store := calmed after.cache.store } } =
        (.ok new, final) ∧
      (ResidentTables.tagStore.contents final.executor).CarriesSome 1 fun record =>
        record.signature = (Tag.parse "x").signature := by
  let ran := (attachTag 1 "x" .ordinary).runFrom (resident (· = "tag:x") fun _ => false)
  have refused : ran = (.error (.ofCache (.unavailable "connection refused")), ran.2) :=
    Prod.ext (by decide +kernel) rfl
  have remembered : ¬ResidentTables.tagStore.Forgets ran.2 (Tag.parse "x").signature := by
    decide +kernel
  obtain ⟨new, final, succeeded, attached⟩ := (attachTag_again (resident_reachable _ _) rfl
    (by decide) refused (text?_calmed _) (willing_calmed _)).1 remembered
  exact ⟨_, ran.2, new, final, refused, rfl, succeeded, attached⟩

/-- The store took a new tag and the cache refused it. The failure is one to try again after,
but that is of no use. -/
theorem attachTag_again_forgotten :
    ∃ (catalog after final : Catalog (SharedCache UnreliableStore) ResidentTables)
        (failure : Failure) (calm : UnreliableStore),
      ResidentTables.tagStore.Reachable catalog ∧ catalog.cache.ready = true ∧
      (Tag.parse "x").key ≠ "" ∧
      (attachTag 1 "x" .ordinary).runFrom catalog = (.error failure, after) ∧
      failure.isRetryable = true ∧
      TextStore.text? calm = TextStore.text? after.cache.store ∧ HonestStore.Willing calm ∧
      (attachTag 1 "x" .ordinary).runFrom
          { after with cache := { after.cache with store := calm } } =
        (.error (.ofQuery (.unknownTag (Tag.parse "x").signature)), final) := by
  let start := resident (fun _ => false) (· = "tag:x")
  let ran := (attachTag 1 "x" .ordinary).runFrom start
  have left : ran.1 = .error (.ofCache (.unavailable "connection refused")) ∧
      ResidentTables.tagStore.Forgets ran.2 (Tag.parse "x").signature := by
    decide +kernel
  have reachable : ResidentTables.tagStore.Reachable start := resident_reachable _ _
  have sound := keeps_attachTag 1 "x" .ordinary _ (reachable.sound.loaded rfl)
  obtain ⟨final, unknown, _⟩ := attachTag_of_forgotten (sound.with_texts (text?_calmed _))
    ⟨sound.cached.ready rfl, willing_calmed _⟩ 1 .ordinary (by decide) left.2.1 left.2.2
  exact ⟨start, ran.2, final, _, calmed ran.2.cache.store, reachable, rfl, by decide,
    Prod.ext left.1 rfl, rfl, text?_calmed _, willing_calmed _, unknown⟩

end Catalog

end TagQuery
