import Mathlib.Data.List.Basic
import TagQuery.IdCache.Resident
import TagQuery.Listing.Changes
import TagQuery.Proofs.Listing.Changes
import TagQuery.Proofs.Listing.Compiled
import TagQuery.Proofs.Statement.Positions

/-! What the text of a statement does not depend on: two callers whose tags play the same
parts are served by one text. -/

namespace TagQuery

/-- Statements of one text in every dialect, also once their parameters are bound. Their
parameters have the same names, so that nothing but the values can differ. -/
structure Prepared.SameText (one other : Prepared) : Prop where
  text : ∀ dialect, one.statement.text dialect = other.statement.text dialect
  bound : ∀ dialect, (one.statement.bind dialect one.params).map PositionalStatement.sql =
    (other.statement.bind dialect other.params).map PositionalStatement.sql
  names : one.params.keys = other.params.keys

private theorem require_alike {params params' : Params} (names : params.keys = params'.keys)
    (name : String) :
    (params.require name).map (fun _ => ()) = (params'.require name).map fun _ => () := by
  have given : (params.get? name).isSome = (params'.get? name).isSome := by
    rw [Bool.eq_iff_iff, OrderedMap.get?_isSome_iff, OrderedMap.get?_isSome_iff, names]
  unfold Params.require
  revert given
  cases params.get? name <;> cases params'.get? name <;> intro given
  · rfl
  · cases given
  · cases given
  · rfl

/-- To which text a statement is bound depends on the names of its parameters alone. -/
theorem Prepared.SameText.of_statement_eq {one other : Prepared}
    (statements : one.statement = other.statement) (names : one.params.keys = other.params.keys) :
    one.SameText other where
  text dialect := by rw [statements]
  bound dialect := by
    rw [Statement.map_sql_bind, Statement.map_sql_bind, statements]
    exact congrArg (Except.mapError _) (Outcome.map_const_mapM (require_alike names) _ _)
  names := names

/-- Leaves of one kind whose tags were resolved alike: to one identifier, or both not at all.
Only an order stands in a listing itself. -/
inductive Leaf.Alike (resolved resolved' : Resolution) : Leaf → Leaf → Prop
  | always : Alike resolved resolved' .always .always
  | order (directive : String) : Alike resolved resolved' (.tag (.valued sortKey directive))
    (.tag (.valued sortKey directive))
  | bare {key key' : String} :
    resolved.get? (Tag.bare key).signature = resolved'.get? (Tag.bare key').signature →
      Alike resolved resolved' (.tag (.bare key)) (.tag (.bare key'))
  | valued {key value key' value' : String} : key ≠ sortKey → key' ≠ sortKey →
    resolved.get? (Tag.valued key value).signature =
      resolved'.get? (Tag.valued key' value').signature →
      Alike resolved resolved' (.tag (.valued key value)) (.tag (.valued key' value'))

/-- Filters of one shape with leaves alike, in which unresolved keys repeat at the same
places. -/
structure Filter.Alike (resolved resolved' : Resolution) (filter filter' : Filter) : Prop where
  leaves : Formula.Matched (Leaf.Alike resolved resolved') filter filter'
  repeats : ∀ {one one' two two' : String},
    (Leaf.tag (.bare one), Leaf.tag (.bare one')) ∈ filter.leaves.zip filter'.leaves →
    (Leaf.tag (.bare two), Leaf.tag (.bare two')) ∈ filter.leaves.zip filter'.leaves →
    resolved.get? (Tag.bare one).signature = none →
    resolved.get? (Tag.bare two).signature = none → (one = two ↔ one' = two')

/-- The keys of two leaves that stand for families. -/
def familyKeys? (resolved : Resolution) : Leaf × Leaf → Option (String × String)
  | (.tag ⟨key, none⟩, .tag ⟨key', none⟩) =>
    if (resolved.get? (Tag.bare key).signature).isNone then some (key, key') else none
  | _ => none

theorem familyKeys?_eq_some {resolved : Resolution} {pair : Leaf × Leaf} {keys : String × String}
    (found : familyKeys? resolved pair = some keys) :
    pair = (.tag (.bare keys.1), .tag (.bare keys.2)) ∧
      resolved.get? (Tag.bare keys.1).signature = none := by
  unfold familyKeys? at found
  split at found
  · split at found
    · cases found
      exact ⟨rfl, Option.isNone_iff_eq_none.mp ‹_›⟩
    · cases found
  · cases found

namespace Leaf.Alike

variable {resolved resolved' : Resolution} {leaves leaves' : List Leaf}

theorem directives_eq (alike : List.Forall₂ (Leaf.Alike resolved resolved') leaves leaves') :
    leaves.filterMap Leaf.directive? = leaves'.filterMap Leaf.directive? := by
  induction alike with
  | nil => rfl
  | cons head _ ih =>
    rw [List.filterMap_cons, List.filterMap_cons, ih]
    cases head with
    | always => rfl
    | order directive => rfl
    | bare same => rw [directive?_bare, directive?_bare]
    | valued tests tests' same => rw [directive?_valued tests, directive?_valued tests']

/-- The families of both sides are those of their places. -/
theorem families_eq (alike : List.Forall₂ (Leaf.Alike resolved resolved') leaves leaves') :
    ((leaves.filterMap Leaf.subject?).filter (isFamily resolved)).map Tag.key =
        ((leaves.zip leaves').filterMap (familyKeys? resolved)).map Prod.fst ∧
      ((leaves'.filterMap Leaf.subject?).filter (isFamily resolved')).map Tag.key =
        ((leaves.zip leaves').filterMap (familyKeys? resolved)).map Prod.snd := by
  induction alike with
  | nil => exact ⟨rfl, rfl⟩
  | cons head _ ih =>
    cases head with
    | always => exact ih
    | order directive => exact ih
    | @bare key key' same =>
      have left : isFamily resolved (.bare key) =
          (resolved.get? (Tag.bare key).signature).isNone := rfl
      have right : isFamily resolved' (.bare key') =
          (resolved.get? (Tag.bare key).signature).isNone := by
        rw [same]
        rfl
      have pair : familyKeys? resolved (.tag (.bare key), .tag (.bare key')) =
        if (resolved.get? (Tag.bare key).signature).isNone then some (key, key') else none := rfl
      rw [List.zip_cons_cons, List.filterMap_cons_some (subject?_bare key),
        List.filterMap_cons_some (subject?_bare key'), List.filterMap_cons, pair, List.filter_cons,
        List.filter_cons, left, right]
      split
      · exact ⟨congrArg (key :: ·) ih.1, congrArg (key' :: ·) ih.2⟩
      · exact ih
    | @valued key value key' value' tests tests' same =>
      rw [List.filterMap_cons_some (subject?_valued tests value),
        List.filterMap_cons_some (subject?_valued tests' value')]
      exact ih

/-- Leaves alike become one test when their families have one number. -/
theorem atom_eq {families families' : List String} {leaf leaf' : Leaf} {atom atom' : Atom}
    (alike : Leaf.Alike resolved resolved' leaf leaf')
    (numbers : ∀ keys, familyKeys? resolved (leaf, leaf') = some keys →
      families.idxOf keys.1 = families'.idxOf keys.2)
    (made : leaf.atom resolved families = .ok atom)
    (made' : leaf'.atom resolved' families' = .ok atom') : atom = atom' := by
  unfold Leaf.atom at made made'
  cases alike with
  | always =>
    cases made
    cases made'
    rfl
  | order directive =>
    cases made
    cases made'
    rfl
  | @bare key key' same =>
    simp only [subject?_bare] at made made'
    cases found : resolved.get? (Tag.bare key).signature with
    | some id =>
      simp only [found, ← same] at made made'
      cases made
      cases made'
      rfl
    | none =>
      have pair : familyKeys? resolved (.tag (.bare key), .tag (.bare key')) = some (key, key') :=
        if_pos (by rw [found]; rfl)
      simp only [found, ← same] at made made'
      cases made
      cases made'
      exact congrArg Atom.carriesFamily (numbers _ pair)
  | @valued key value key' value' tests tests' same =>
    simp only [subject?_valued tests, subject?_valued tests'] at made made'
    cases found : resolved.get? (Tag.valued key value).signature with
    | some id =>
      simp only [found, ← same] at made made'
      cases made
      cases made'
      rfl
    | none =>
      -- A valued tag without an identifier is refused.
      simp only [found] at made
      cases made

end Leaf.Alike

namespace Filter.Alike

variable {resolved resolved' : Resolution} {filter filter' : Filter}

/-- A key of one family and the key at its place determine each other. -/
theorem keys_eq_iff (alike : Alike resolved resolved' filter filter') {keys keys' : String × String}
    (member : keys ∈ (filter.leaves.zip filter'.leaves).filterMap (familyKeys? resolved))
    (member' : keys' ∈ (filter.leaves.zip filter'.leaves).filterMap (familyKeys? resolved)) :
    keys.1 = keys'.1 ↔ keys.2 = keys'.2 := by
  obtain ⟨pair, inside, found⟩ := List.mem_filterMap.mp member
  obtain ⟨pair', inside', found'⟩ := List.mem_filterMap.mp member'
  obtain ⟨rfl, unresolved⟩ := familyKeys?_eq_some found
  obtain ⟨rfl, unresolved'⟩ := familyKeys?_eq_some found'
  exact alike.repeats inside inside' unresolved unresolved'

theorem families_eq (alike : Alike resolved resolved' filter filter') :
    let keys := ((filter.leaves.zip filter'.leaves).filterMap (familyKeys? resolved)).eraseDups
    filter.families resolved = keys.map Prod.fst ∧
      filter'.families resolved' = keys.map Prod.snd := by
  obtain ⟨left, right⟩ := Leaf.Alike.families_eq alike.leaves.forall₂_leaves
  constructor
  · rw [families, subjects, left, eraseDups_map]
    intro one member two member' same
    exact Prod.ext same ((alike.keys_eq_iff member member').mp same)
  · rw [families, subjects, right, eraseDups_map]
    intro one member two member' same
    exact Prod.ext ((alike.keys_eq_iff member member').mpr same) same

/-- Both filters number the families at one place alike. -/
theorem idxOf_eq (alike : Alike resolved resolved' filter filter') {keys : String × String}
    (member : keys ∈ (filter.leaves.zip filter'.leaves).filterMap (familyKeys? resolved)) :
    (filter.families resolved).idxOf keys.1 = (filter'.families resolved').idxOf keys.2 := by
  obtain ⟨left, right⟩ := alike.families_eq
  have listed := List.mem_eraseDups.mpr member
  rw [left, right, idxOf_map listed, idxOf_map listed]
  · intro one inside two inside' same
    have agree := alike.keys_eq_iff (List.mem_eraseDups.mp inside) (List.mem_eraseDups.mp inside')
    exact Prod.ext (agree.mpr same) same
  · intro one inside two inside' same
    have agree := alike.keys_eq_iff (List.mem_eraseDups.mp inside) (List.mem_eraseDups.mp inside')
    exact Prod.ext same (agree.mp same)

variable {compiled compiled' : CompiledFilter}

theorem predicate_eq (alike : Alike resolved resolved' filter filter')
    (made : filter.compileResolved resolved = .ok compiled)
    (made' : filter'.compileResolved resolved' = .ok compiled') :
    compiled.predicate = compiled'.predicate := by
  have first := Formula.matched_of_traverse (of_compileResolved_ok made).1
  have second := Formula.matched_of_traverse (of_compileResolved_ok made').1
  refine alike.leaves.zipped.eq_of_replaced ?_ first second
  rintro leaf leaf' atom atom' ⟨same, member⟩ ⟨_, replaced⟩ ⟨_, replaced'⟩
  refine same.atom_eq (fun keys found => ?_) replaced replaced'
  exact alike.idxOf_eq (List.mem_filterMap.mpr ⟨_, member, found⟩)

theorem order_eq (alike : Alike resolved resolved' filter filter')
    (made : filter.compileResolved resolved = .ok compiled)
    (made' : filter'.compileResolved resolved' = .ok compiled') :
    compiled.order = compiled'.order := by
  rw [(of_compileResolved_ok made).2.1, (of_compileResolved_ok made').2.1, directives, directives,
    Leaf.Alike.directives_eq alike.leaves.forall₂_leaves]

theorem keys_params_eq (alike : Alike resolved resolved' filter filter')
    (made : filter.compileResolved resolved = .ok compiled)
    (made' : filter'.compileResolved resolved' = .ok compiled') :
    compiled.params.keys = compiled'.params.keys := by
  obtain ⟨left, right⟩ := alike.families_eq
  rw [(of_compileResolved_ok made).2.2.1, (of_compileResolved_ok made').2.2.1, keys_familyParams,
    keys_familyParams, left, right, List.length_map, List.length_map]

end Filter.Alike

theorem keys_withWindow_eq {params params' : Params} (names : params.keys = params'.keys)
    (window window' : PageWindow) :
    (params.withWindow window).keys = (params'.withWindow window').keys := by
  unfold Params.withWindow
  simp only [OrderedMap.keys_insert, names]

namespace Schema

variable {σ σ' : Type} [IdCache σ] [IdCache σ'] (schema : Schema)

theorem listFiltered_sameText {cache after : σ} {cache' after' : σ'} {filter filter' : Filter}
    {window window' : PageWindow} {resolved resolved' : Resolution} {prepared prepared' : Prepared}
    (known : ((Filter.resolve filter.signatures).runFrom cache).1 = .ok resolved)
    (known' : ((Filter.resolve filter'.signatures).runFrom cache').1 = .ok resolved')
    (alike : Filter.Alike resolved resolved' filter filter')
    (ran : (schema.listFiltered filter window).runFrom cache = (.ok prepared, after))
    (ran' : (schema.listFiltered filter' window').runFrom cache' = (.ok prepared', after')) :
    prepared.SameText prepared' := by
  obtain ⟨compiled, _, compiles, last⟩ := Action.of_runFrom_bind_ok ran
  obtain ⟨compiled', _, compiles', last'⟩ := Action.of_runFrom_bind_ok ran'
  cases last
  cases last'
  obtain ⟨_, _, resolves, made⟩ := Filter.of_compile_ok compiles
  obtain ⟨_, _, resolves', made'⟩ := Filter.of_compile_ok compiles'
  rw [resolves] at known
  rw [resolves'] at known'
  cases known
  cases known'
  apply Prepared.SameText.of_statement_eq
  · unfold listEntities
    rw [alike.predicate_eq made made', alike.order_eq made made']
  · exact keys_withWindow_eq (alike.keys_params_eq made made') window window'

theorem listTags_sameText {query query' : Tag} (window window' : PageWindow)
    (same : query.value.isSome = query'.value.isSome) :
    (schema.listTags query window).SameText (schema.listTags query' window') := by
  have condition : schema.tagCondition query = schema.tagCondition query' ∧
      (tagConditionParams query).keys = (tagConditionParams query').keys := by
    unfold tagCondition tagConditionParams
    revert same
    cases query.value <;> cases query'.value <;> intro same
    · exact ⟨rfl, rfl⟩
    · cases same
    · cases same
    · exact ⟨rfl, rfl⟩
  apply Prepared.SameText.of_statement_eq
  · unfold listTags
    rw [condition.1]
  · exact keys_withWindow_eq condition.2 window window'

theorem insertTags_sameText {tags tags' : List TagDraft} (same : tags.length = tags'.length) :
    (schema.insertTags tags).SameText (schema.insertTags tags') := by
  apply Prepared.SameText.of_statement_eq
  · unfold insertTags
    rw [same]
  · rw [keys_insertTags, keys_insertTags, same]

/-- Inserts of valid lists with equally many signatures are made or left out together. -/
theorem createTags_sameText {tags tags' : List TagDraft}
    (valid : ∀ new ∈ tags, new.tag.check = .ok ()) (valid' : ∀ new ∈ tags', new.tag.check = .ok ())
    (same : (tags.map fun new => new.tag.signature).eraseDups.length =
      (tags'.map fun new => new.tag.signature).eraseDups.length) :
    ∃ made made', schema.createTags tags = .ok made ∧ schema.createTags tags' = .ok made' ∧
      Option.Rel Prepared.SameText made made' := by
  rw [createTags_of_valid valid, createTags_of_valid valid']
  refine ⟨_, _, rfl, rfl, ?_⟩
  rw [← length_distinctTags, ← length_distinctTags] at same
  have empty (list : List TagDraft) : list = [] ↔ (distinctTags list).length = 0 := by
    rw [length_distinctTags]
    cases list <;> simp [List.eraseDups_cons]
  by_cases none : tags = []
  · have none' := (empty tags').mpr (same ▸ (empty tags).mp none)
    rw [if_pos none, if_pos none']
    exact .none
  · have some' := mt (empty tags').mp (same ▸ mt (empty tags).mpr none)
    rw [if_neg none, if_neg some']
    exact .some (schema.insertTags_sameText same)

theorem attach_sameText (entity entity' : Int64) (id : TagId) :
    (schema.attach entity id).SameText (schema.attach entity' id) :=
  .of_statement_eq rfl rfl

theorem detach_sameText (entity entity' : Int64) (id : TagId) :
    (schema.detach entity id).SameText (schema.detach entity' id) :=
  .of_statement_eq rfl rfl

theorem attachKnown_of_resolve {cache : σ} {tag : Tag} {id : TagId} (entity : Int64)
    (known : (tag.resolve.runFrom cache).1 = .ok id) :
    ((schema.attachKnown entity tag).runFrom cache).1 = .ok (schema.attach entity id) := by
  unfold attachKnown
  rw [Action.runFrom_bind_of_ok (Prod.ext known rfl), Action.runFrom_pure]

theorem detachKnown_of_resolve {cache : σ} {tag : Tag} {id : TagId} (entity : Int64)
    (known : (tag.resolve.runFrom cache).1 = .ok id) :
    ((schema.detachKnown entity tag).runFrom cache).1 = .ok (schema.detach entity id) := by
  unfold detachKnown
  rw [Action.runFrom_bind_of_ok (Prod.ext known rfl), Action.runFrom_pure]

/-- No text that a caller supplied stands in a statement: listings of filters alike, inserts
of equally many tags, searches of one kind and changes that concern one identifier each
have one text. -/
theorem text_independent :
    (∀ {σ σ' : Type} [IdCache σ] [IdCache σ'] {cache after : σ} {cache' after' : σ'}
      {filter filter' : Filter} {window window' : PageWindow} {resolved resolved' : Resolution}
      {prepared prepared' : Prepared},
      ((Filter.resolve filter.signatures).runFrom cache).1 = .ok resolved →
      ((Filter.resolve filter'.signatures).runFrom cache').1 = .ok resolved' →
      Filter.Alike resolved resolved' filter filter' →
      (schema.listFiltered filter window).runFrom cache = (.ok prepared, after) →
      (schema.listFiltered filter' window').runFrom cache' = (.ok prepared', after') →
      prepared.SameText prepared') ∧
    (∀ {tags tags' : List TagDraft}, (∀ new ∈ tags, new.tag.check = .ok ()) →
      (∀ new ∈ tags', new.tag.check = .ok ()) →
      (tags.map fun new => new.tag.signature).eraseDups.length =
        (tags'.map fun new => new.tag.signature).eraseDups.length →
      ∃ made made', schema.createTags tags = .ok made ∧ schema.createTags tags' = .ok made' ∧
        Option.Rel Prepared.SameText made made') ∧
    (∀ {query query' : Tag} (window window' : PageWindow),
      query.value.isSome = query'.value.isSome →
      (schema.listTags query window).SameText (schema.listTags query' window')) ∧
    (∀ {σ σ' : Type} [IdCache σ] [IdCache σ'] {cache : σ} {cache' : σ'} {tag tag' : Tag}
      (id : TagId) (entity entity' : Int64), (tag.resolve.runFrom cache).1 = .ok id →
      (tag'.resolve.runFrom cache').1 = .ok id →
      (∃ attached attached', ((schema.attachKnown entity tag).runFrom cache).1 = .ok attached ∧
        ((schema.attachKnown entity' tag').runFrom cache').1 = .ok attached' ∧
        attached.SameText attached') ∧
      ∃ detached detached', ((schema.detachKnown entity tag).runFrom cache).1 = .ok detached ∧
        ((schema.detachKnown entity' tag').runFrom cache').1 = .ok detached' ∧
        detached.SameText detached') := by
  refine ⟨?_, ?_, ?_, ?_⟩
  · intro _ _ _ _ _ _ _ _ _ _ _ _ _ _ _ _ known known' alike ran ran'
    exact schema.listFiltered_sameText known known' alike ran ran'
  · intro _ _ valid valid' same
    exact schema.createTags_sameText valid valid' same
  · intro _ _ window window' same
    exact schema.listTags_sameText window window' same
  · intro _ _ _ _ _ _ _ _ id entity entity' known known'
    constructor
    · exact ⟨_, _, schema.attachKnown_of_resolve entity known,
        schema.attachKnown_of_resolve entity' known', schema.attach_sameText entity entity' id⟩
    · exact ⟨_, _, schema.detachKnown_of_resolve entity known,
        schema.detachKnown_of_resolve entity' known', schema.detach_sameText entity entity' id⟩

/-- A cache that knows one bare tag. -/
def sampleCache (known : String) : ResidentCache :=
  { entries := ⟨[((Tag.bare known).signature, ⟨5⟩)]⟩, ready := true }

/-- Two families and a known tag in random order. -/
def sampleFilter (known first second : String) : Filter :=
  .and (.or (Filter.bare first) (Filter.bare second))
    (.and (Filter.bare known) (Filter.sort "random"))

private theorem sampleFilters_alike : Filter.Alike (sampleCache "new").entries
    (sampleCache "old").entries (sampleFilter "new" "jazz" "rock")
    (sampleFilter "old" "'; --" "blue") where
  leaves := .and (.or (.leaf (.bare rfl)) (.leaf (.bare rfl)))
    (.and (.leaf (.bare rfl)) (.leaf (.order "random")))
  repeats := by
    intro one one' two two' member member' unknown unknown'
    simp only [sampleFilter, Formula.leaves, Filter.bare, Filter.sort, Filter.valued, Filter.ofTag,
      List.cons_append, List.nil_append, List.zip_cons_cons, List.zip_nil_right, List.mem_cons,
      Prod.mk.injEq, Leaf.tag.injEq, Tag.bare, Tag.valued, Tag.mk.injEq, and_true, reduceCtorEq,
      and_false, List.not_mem_nil, or_false] at member member'
    rcases member with ⟨rfl, rfl⟩ | ⟨rfl, rfl⟩ | ⟨rfl, rfl⟩
    · rcases member' with ⟨rfl, rfl⟩ | ⟨rfl, rfl⟩ | ⟨rfl, rfl⟩ <;> simp
    · rcases member' with ⟨rfl, rfl⟩ | ⟨rfl, rfl⟩ | ⟨rfl, rfl⟩ <;> simp
    · cases unknown

theorem text_independent_sample :
    (∃ prepared prepared', (({} : Schema).listFiltered (sampleFilter "new" "jazz" "rock")
        ⟨10, 0⟩).runFrom (sampleCache "new") = (.ok prepared, sampleCache "new") ∧
      (({} : Schema).listFiltered (sampleFilter "old" "'; --" "blue") ⟨20, 5⟩).runFrom
        (sampleCache "old") = (.ok prepared', sampleCache "old") ∧ prepared.SameText prepared') ∧
    (∃ made made', ({} : Schema).createTags [⟨.bare "jazz", .ordinary⟩] = .ok made ∧
      ({} : Schema).createTags [⟨.bare "';", .system⟩, ⟨.bare "';", .ordinary⟩] = .ok made' ∧
      Option.Rel Prepared.SameText made made') ∧
    (({} : Schema).listTags (.bare "jazz") ⟨10, 0⟩).SameText
      (({} : Schema).listTags (.bare "'; --") ⟨20, 5⟩) ∧
    ∃ attached attached', ((({} : Schema).attachKnown 1 (.bare "new")).runFrom
        (sampleCache "new")).1 = .ok attached ∧
      ((({} : Schema).attachKnown 2 (.bare "old")).runFrom (sampleCache "old")).1 = .ok attached' ∧
      attached.SameText attached' := by
  obtain ⟨listings, inserts, searches, changes⟩ := text_independent {}
  obtain ⟨prepared, ran⟩ : ∃ prepared, (({} : Schema).listFiltered
      (sampleFilter "new" "jazz" "rock") ⟨10, 0⟩).runFrom (sampleCache "new") =
        (.ok prepared, sampleCache "new") := ⟨_, rfl⟩
  obtain ⟨prepared', ran'⟩ : ∃ prepared, (({} : Schema).listFiltered
      (sampleFilter "old" "'; --" "blue") ⟨20, 5⟩).runFrom (sampleCache "old") =
        (.ok prepared, sampleCache "old") := ⟨_, rfl⟩
  refine ⟨⟨prepared, prepared', ran, ran', listings ?_ ?_ sampleFilters_alike ran ran'⟩,
    inserts ?_ ?_ rfl, searches _ _ rfl, (changes ⟨5⟩ 1 2 ?_ ?_).1⟩
  · rfl
  · rfl
  · exact List.forall_mem_cons.mpr ⟨rfl, List.forall_mem_nil _⟩
  · exact List.forall_mem_cons.mpr ⟨rfl, List.forall_mem_cons.mpr ⟨rfl, List.forall_mem_nil _⟩⟩
  · rfl
  · rfl

end Schema

end TagQuery
