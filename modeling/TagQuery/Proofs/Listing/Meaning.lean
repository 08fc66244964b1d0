import TagQuery.Listing.Queries
import TagQuery.Proofs.Condition.ReadBack
import TagQuery.Proofs.Filter.Meaning
import TagQuery.Proofs.IdCache.Entries
import TagQuery.Proofs.List.Related
import TagQuery.Proofs.Listing.Compiled

/-! A compiled filter admits the entities that the filter is about. -/

namespace TagQuery

/-- The tables of a schema have one row for each tag and for each pair that a store holds. -/
structure Database.Holds (database : Database) (schema : Schema) (contents : Contents) : Prop where
  tags : List.Forall₂ (fun (row : Record) (record : StoredTag) =>
    row "id" = .ofTagId record.id ∧ row "key" = .text record.key ∧
      row "value" = .ofText? record.value ∧ row "type" = .text record.type.name)
    (database.table schema.tags.table) contents.tags
  pairs : List.Forall₂ (fun (row : Record) (pair : Int64 × TagId) =>
    row schema.association.entityColumn = .integer pair.1 ∧
      row schema.association.tagColumn = .ofTagId pair.2)
    (database.table schema.association.table) contents.pairs

def StoredTag.toRecord (record : StoredTag) : Record := fun column =>
  if column = "id" then .ofTagId record.id
  else if column = "key" then .text record.key
  else if column = "value" then .ofText? record.value
  else if column = "type" then .text record.type.name
  else .null

def AssociationTable.toRecord (association : AssociationTable) (pair : Int64 × TagId) : Record :=
  fun column =>
    if column = association.entityColumn then .integer pair.1
    else if column = association.tagColumn then .ofTagId pair.2
    else .null

/-- Tables that hold given tags and pairs and nothing else. -/
def Database.ofContents (schema : Schema) (contents : Contents) : Database where
  table name :=
    if name = schema.tags.table then contents.tags.map StoredTag.toRecord
    else if name = schema.association.table then
      contents.pairs.map schema.association.toRecord
    else []

theorem Database.ofContents_holds {schema : Schema} (contents : Contents)
    (tables : schema.association.table ≠ schema.tags.table)
    (columns : schema.association.tagColumn ≠ schema.association.entityColumn) :
    (ofContents schema contents).Holds schema contents where
  tags := by
    simp only [ofContents, ↓reduceIte, List.forall₂_map_left_iff, List.forall₂_same]
    intro record _
    simp [StoredTag.toRecord]
  pairs := by
    simp only [ofContents, tables, ↓reduceIte, List.forall₂_map_left_iff, List.forall₂_same]
    intro pair _
    simp [AssociationTable.toRecord, columns]

/-- The rows that stand for an entity in a listing: one for each of its pairs, or a single
one of nulls when it has none. -/
def Schema.group (schema : Schema) (database : Database) (row : Record) : List Scope :=
  database.leftJoin .empty (Scope.empty.bind "e" row) ⟨schema.association.table, "et"⟩
    (.equal (.column "e" schema.entity.idColumn) (.column "et" schema.association.entityColumn))

/-- The join of a listing of entities is written as the condition that makes the groups. -/
theorem Schema.read?_joinCondition {schema : Schema} (named : schema.Named) :
    Condition.read? (schema.association.join .left "et" ("e." ++ schema.entity.idColumn)
      schema.association.entityColumn).condition = some (.equal
        (.column "e" schema.entity.idColumn) (.column "et" schema.association.entityColumn)) := by
  have dotted : "e." = "e" ++ "." := rfl
  rw [AssociationTable.join, dotted]
  exact Condition.read?_equal_columns (by decide) (by decide)
    (all_isNameCharacter_column (by decide) named.idColumn)
    (all_isNameCharacter_column (by decide) named.entityColumn)

/-- What an atom says of an entity, when the families are numbered by their keys. -/
def Atom.HeldBy (contents : Contents) (families : List String) (entity : Int64) : Atom → Prop
  | .always => True
  | .carries id => contents.Carries entity id
  | .carriesFamily index =>
    ∃ key, families[index]? = some key ∧ contents.CarriesSome entity fun record => record.key = key

section Truth

variable {schema : Schema} {contents : Contents} {database : Database} {entity : Int64} {row : Record}

/-- The group of an entity that the listing's own join makes. -/
theorem Schema.mem_group_iff (scope : Scope) :
    scope ∈ schema.group database row ↔
      (∃ pair ∈ database.table schema.association.table,
        (row schema.entity.idColumn).equals (pair schema.association.entityColumn) = some true ∧
          scope = (Scope.empty.bind "e" row).bind "et" pair) ∨
      ((∀ pair ∈ database.table schema.association.table,
        (row schema.entity.idColumn).equals (pair schema.association.entityColumn) ≠ some true) ∧
          scope = (Scope.empty.bind "e" row).bind "et" fun _ => .null) := by
  rw [group, Database.mem_leftJoin_iff]
  simp [Condition.truth, Operand.value, Scope.bind]

/-- Some row of the group has a tag exactly when the entity carries it. -/
theorem Schema.exists_group_iff (stored : database.Holds schema contents)
    (named : row schema.entity.idColumn = .integer entity) (id : TagId) :
    (∃ scope ∈ schema.group database row,
      (scope "et" schema.association.tagColumn).equals (.ofTagId id) = some true) ↔
        contents.Carries entity id := by
  constructor
  · rintro ⟨scope, member, found⟩
    rcases mem_group_iff scope |>.mp member with ⟨pair, present, matched, rfl⟩ | ⟨_, rfl⟩
    · obtain ⟨⟨owner, tag⟩, held, owned, column⟩ := exists_of_mem_left stored.pairs present
      rw [named, owned, Value.equals_eq_true_iff] at matched
      rw [Scope.bind_self, column, Value.equals_eq_true_iff] at found
      obtain rfl : entity = owner := by simpa using matched.1
      obtain rfl : tag = id := Value.ofTagId_inj.mp found.1
      exact held
    · simp [Value.equals] at found
  · intro carried
    obtain ⟨pair, present, owned, column⟩ := exists_of_mem_right stored.pairs carried
    refine ⟨(Scope.empty.bind "e" row).bind "et" pair,
      mem_group_iff _ |>.mpr (.inl ⟨pair, present, ?_, rfl⟩), ?_⟩
    · rw [named, owned, Value.equals_eq_true_iff]
      exact ⟨rfl, by simp⟩
    · rw [Scope.bind_self, column, Value.equals_eq_true_iff]
      exact ⟨rfl, by simp [Value.ofTagId]⟩

theorem Atom.decides {families : List String} {params : Params}
    (stored : database.Holds schema contents)
    (named : row schema.entity.idColumn = .integer entity)
    (keyed : ∀ index, params.get? (familyParameter index) = families[index]?.map .text)
    (atom : Atom) :
    ((atom.condition schema).truth database params (schema.group database row)
      (Scope.empty.bind "e" row)).Decides (atom.HeldBy contents families entity) := by
  cases atom with
  | always => exact ⟨true, rfl, by simp [HeldBy]⟩
  | carries id =>
    have filled : schema.group database row ≠ [] := Database.leftJoin_ne_nil _ _ _ _ _
    exact (Condition.decides_sumExceeds filled _).congr (Schema.exists_group_iff stored named id)
  | carriesFamily index =>
    refine (Condition.decides_existsJoin _ _ _ _).congr ?_
    have owner (one two : Record) :
        (((Scope.empty.bind "e" row).bind "fet" one).bind "ft" two) "e" = row := by
      simp [Scope.bind]
    have pair (one two : Record) :
        (((Scope.empty.bind "e" row).bind "fet" one).bind "ft" two) "fet" = one := by
      simp [Scope.bind]
    simp only [Condition.truth, Operand.value, Scope.bind_self, owner, pair, keyed, named,
      Truth.and_eq_true_iff, Value.equals_eq_true_iff]
    constructor
    · rintro ⟨one, present, two, present', ⟨joined, _⟩, ⟨owned, _⟩, ⟨keys, filled⟩⟩
      obtain ⟨⟨holder, tag⟩, held, owned', column⟩ := exists_of_mem_left stored.pairs present
      obtain ⟨record, stored', id, key, _, _⟩ := exists_of_mem_left stored.tags present'
      obtain rfl : record.id = tag := Value.ofTagId_inj.mp (by rw [← id, joined, column])
      obtain rfl : holder = entity := by simpa [owned'] using owned
      cases family : families[index]? with
      | none => simp [key, family] at keys
      | some name => exact ⟨name, family, record, stored', by simpa [key, family] using keys, held⟩
    · rintro ⟨name, family, record, stored', rfl, carried⟩
      obtain ⟨one, present, owned, column⟩ := exists_of_mem_right stored.pairs carried
      obtain ⟨two, present', id, key, _, _⟩ := exists_of_mem_right stored.tags stored'
      refine ⟨one, present, two, present', ?_, ?_, ?_⟩
      · simp [id, column, Value.ofTagId]
      · simp [owned]
      · simp [key, family]

/-- A predicate is never unknown. -/
theorem Predicate.decides {families : List String} {params : Params}
    (stored : database.Holds schema contents)
    (named : row schema.entity.idColumn = .integer entity)
    (keyed : ∀ index, params.get? (familyParameter index) = families[index]?.map .text)
    (predicate : Predicate) :
    ((Predicate.condition schema predicate).truth database params (schema.group database row)
      (Scope.empty.bind "e" row)).Decides
        (Formula.Holds (Atom.HeldBy contents families entity) predicate) := by
  induction predicate with
  | leaf atom => exact atom.decides stored named keyed
  | and left right decidesLeft decidesRight => exact decidesLeft.and decidesRight
  | or left right decidesLeft decidesRight => exact decidesLeft.or decidesRight
  | not inner decidesInner => exact decidesInner.not

end Truth

/-- The entries of a cache are those of the stored tags. -/
def Contents.CachedIn {σ : Type} [IdCache σ] [EntryCache σ] (contents : Contents) (cache : σ) : Prop :=
  ∀ signature id, EntryCache.entry? cache signature = some id ↔
    ∃ record ∈ contents.tags, record.signature = signature ∧ record.id = id

/-- A resident cache that every stored tag was loaded into. -/
def Contents.loaded (contents : Contents) : ResidentCache where
  entries := .ofList (contents.tags.map fun record => (record.signature, record.id))
  ready := true

theorem Contents.Valid.cachedIn_loaded {contents : Contents} (valid : contents.Valid) :
    contents.CachedIn contents.loaded := by
  intro signature id
  have distinct := valid.nodup_signatures
  have names :
      ((contents.tags.map fun record => (record.signature, record.id)).map Prod.fst).Nodup := by
    simpa [Function.comp_def] using distinct
  change contents.loaded.entries.get? signature = some id ↔ _
  have entries : contents.loaded.entries =
      ⟨contents.tags.map fun record => (record.signature, record.id)⟩ :=
    OrderedMap.ofList_of_nodup names
  constructor
  · intro found
    have member := OrderedMap.mem_of_get? found
    rw [entries] at member
    simpa using member
  · rintro ⟨record, member, rfl, rfl⟩
    have written : (record.signature, record.id) ∈ contents.loaded.entries.entries := by
      rw [entries]
      exact List.mem_map_of_mem member
    exact OrderedMap.get?_of_mem (by rw [entries]; exact names) written

/-- The test that a leaf is replaced by says the same of every entity. -/
theorem Leaf.heldBy_iff {contents : Contents} (valid : contents.Valid) {resolved : Resolution}
    {families : List String} {leaf : Leaf} {atom : Atom} (entity : Int64)
    (checked : ∀ tag, leaf.subject? = some tag → tag.check = .ok ())
    (known : ∀ tag, leaf.subject? = some tag → ∀ id, resolved.get? tag.signature = some id ↔
      ∃ record ∈ contents.tags, record.signature = tag.signature ∧ record.id = id)
    (listed : ∀ tag, leaf.subject? = some tag → isFamily resolved tag → tag.key ∈ families)
    (replaced : leaf.atom resolved families = .ok atom) :
    leaf.HeldBy contents entity ↔ atom.HeldBy contents families entity := by
  unfold Leaf.atom at replaced
  cases asked : leaf.subject? with
  | none =>
    rw [asked] at replaced
    cases replaced
    exact iff_of_true (Leaf.heldBy_of_subject?_none asked) trivial
  | some tag =>
    rw [Leaf.heldBy_of_subject? asked]
    cases found : resolved.get? tag.signature with
    | some id =>
      simp only [asked, found] at replaced
      cases replaced
      obtain ⟨record, member, same, rfl⟩ := (known tag asked id).mp found
      obtain rfl := valid.tag_eq member (checked tag asked) same
      exact record.tag_heldBy_iff valid member entity
    | none =>
      by_cases bare : tag.value.isNone
      · simp only [asked, found, bare, ↓reduceIte] at replaced
        cases replaced
        have absent : ∀ record ∈ contents.tags, record.tag ≠ tag := by
          rintro record member rfl
          have held := (known record.tag asked record.id).mpr ⟨record, member, rfl, rfl⟩
          rw [found] at held
          cases held
        have place := listed tag asked (by simp [isFamily, bare, found])
        have inside := List.idxOf_lt_length_of_mem place
        rw [Tag.heldBy_of_not_stored (by simpa using bare) absent, Atom.HeldBy]
        simp [inside]
      · simp only [asked, found, bare] at replaced
        cases replaced

/-- A page adds nothing but its own two parameters. -/
theorem Params.get?_withWindow (params : Params) (window : PageWindow) {name : String}
    (limit : name ≠ "limit") (offset : name ≠ "offset") :
    (params.withWindow window).get? name = params.get? name := by
  rw [withWindow, OrderedMap.get?_insert, if_neg offset, OrderedMap.get?_insert, if_neg limit]

/-- The parameters of a page leave those of the families alone. -/
theorem get?_withWindow (params : Params) (window : PageWindow) (index : Nat) :
    (params.withWindow window).get? (familyParameter index) =
      params.get? (familyParameter index) := by
  have other (name : String) (start : name.toList.head? ≠ some 'f') : familyParameter index ≠ name := by
    rintro rfl
    simp [familyParameter] at start
  exact params.get?_withWindow window (other "limit" (by decide)) (other "offset" (by decide))

/-- The condition that a compiled filter becomes has one truth on the group of an entity,
and it is true exactly when the filter holds for the entity. Adding the parameters of a
page changes nothing. -/
theorem Filter.condition_decides {σ : Type} [IdCache σ] [EntryCache σ] {schema : Schema}
    (checked : schema.check = .ok ()) {contents : Contents} (valid : contents.Valid)
    {database : Database} (stored : database.Holds schema contents) {cache after : σ}
    (cached : contents.CachedIn cache) {filter : Filter} {compiled : CompiledFilter}
    (ran : filter.compile.runFrom cache = (.ok compiled, after)) {entity : Int64} {row : Record}
    (named : row schema.entity.idColumn = .integer entity) :
    ∃ condition, Condition.read? (compiled.predicate.text schema) = some condition ∧
      (condition.truth database compiled.params (schema.group database row)
        (Scope.empty.bind "e" row)).Decides (filter.HoldsFor contents entity) ∧
      ∀ window, (condition.truth database (schema.listEntities compiled window).params
        (schema.group database row) (Scope.empty.bind "e" row)).Decides
          (filter.HoldsFor contents entity) := by
  obtain ⟨good, resolved, lookups, made⟩ := of_compile_ok ran
  obtain ⟨traversed, _, params, _⟩ := of_compileResolved_ok made
  have same : filter.HoldsFor contents entity ↔ Formula.Holds
      (Atom.HeldBy contents (filter.families resolved) entity) compiled.predicate := by
    refine (Formula.matched_of_traverse traversed).holds_iff ?_
    rintro leaf atom ⟨member, replaced⟩
    have subject {tag : Tag} (asked : leaf.subject? = some tag) : tag ∈ filter.subjects :=
      Leaf.mem_subjects member asked
    refine Leaf.heldBy_iff valid entity (fun tag asked => good tag (subject asked)) ?_ ?_ replaced
    · intro tag asked id
      have signature := Tag.signature_mem_signatures (subject asked)
      rw [resolve, if_neg (List.ne_nil_of_mem signature)] at lookups
      rw [EntryCache.get?_of_lookupMany lookups _ signature]
      exact cached tag.signature id
    · intro tag asked family
      exact List.mem_eraseDups.mpr
        (List.mem_map_of_mem (List.mem_filter.mpr ⟨subject asked, family⟩))
  have keyed index : compiled.params.get? (familyParameter index) =
      (filter.families resolved)[index]?.map .text := by
    rw [params, get?_familyParams]
  refine ⟨_, Predicate.read?_text (Schema.named_of_check checked) _, ?_, fun window => ?_⟩
  · exact (Predicate.decides stored named keyed _).congr same.symm
  · refine (Predicate.decides stored named (fun index => ?_) _).congr same.symm
    rw [Schema.listEntities, get?_withWindow, keyed]

/-- Two valued tags, of which one entity carries the first. -/
def sampleStore : Contents where
  tags := [⟨⟨1⟩, "lang", some "en", .ordinary⟩, ⟨⟨2⟩, "genre", some "rock", .ordinary⟩]
  pairs := [(7, ⟨1⟩)]

def sampleEntity : Record := fun column => if column = "id" then .integer 7 else .null

/-- A valued tag that is stored, and a family of which nothing is wanted. -/
def sampleFilter : Filter := .and (Filter.valued "lang" "en") (.not (Filter.bare "genre"))

def sampleCompiled : CompiledFilter where
  predicate := .and (.leaf (.carries ⟨1⟩)) (.not (.leaf (.carriesFamily 0)))
  order := .ofDirectives []
  params := familyParams ["genre"]
  counts := ⟨2, 1, 1⟩

theorem sampleStore_valid : sampleStore.Valid where
  names := by decide
  ids := by decide
  keys := by decide

/-- The sample has everything that the truth of a condition rests on. -/
theorem Filter.condition_decides_sample :
    ({} : Schema).check = .ok () ∧ sampleStore.Valid ∧
      (Database.ofContents {} sampleStore).Holds {} sampleStore ∧
      sampleStore.CachedIn sampleStore.loaded ∧
      sampleFilter.compile.runFrom sampleStore.loaded = (.ok sampleCompiled, sampleStore.loaded) ∧
      ∃ condition, Condition.read? (sampleCompiled.predicate.text {}) = some condition ∧
        (condition.truth (Database.ofContents {} sampleStore) sampleCompiled.params
          (Schema.group {} (Database.ofContents {} sampleStore) sampleEntity)
          (Scope.empty.bind "e" sampleEntity)).Decides
            (sampleFilter.HoldsFor sampleStore 7) := by
  have checked : ({} : Schema).check = .ok () := by decide
  have stored : (Database.ofContents {} sampleStore).Holds {} sampleStore :=
    Database.ofContents_holds sampleStore (by decide) (by decide)
  have cached := sampleStore_valid.cachedIn_loaded
  have ran : sampleFilter.compile.runFrom sampleStore.loaded =
    (.ok sampleCompiled, sampleStore.loaded) := rfl
  have named : sampleEntity ({} : Schema).entity.idColumn = .integer 7 := rfl
  obtain ⟨condition, read, decided, _⟩ :=
    Filter.condition_decides checked sampleStore_valid stored cached ran named
  exact ⟨checked, sampleStore_valid, stored, cached, ran, condition, read, decided⟩

end TagQuery
