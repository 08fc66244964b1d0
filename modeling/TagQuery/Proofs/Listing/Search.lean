import TagQuery.Proofs.Condition.Search
import TagQuery.Proofs.Listing.Meaning

/-! A search for tags finds the tags that contain what is sought, whatever characters that is
made of. -/

namespace TagQuery

/-- The row of a stored tag. -/
def Record.Shows (row : Record) (record : StoredTag) : Prop :=
  row "id" = .ofTagId record.id ∧ row "key" = .text record.key ∧
    row "value" = .ofText? record.value ∧ row "type" = .text record.type.name

/-- A bare tag seeks the keys that contain its own. A valued one seeks the values that contain
its own, under its own key. -/
def StoredTag.SoughtBy (alike : Char → Char → Bool) (query : Tag) (record : StoredTag) : Prop :=
  match query.value with
  | none => Text.Contains alike record.key query.key
  | some sought =>
    record.key = query.key ∧ ∃ held ∈ record.value, Text.Contains alike held sought

instance (alike : Char → Char → Bool) (query : Tag) :
    DecidablePred (StoredTag.SoughtBy alike query) := fun record =>
  match query with
  | ⟨key, none⟩ => inferInstanceAs (Decidable (Text.Contains alike record.key key))
  | ⟨key, some sought⟩ => inferInstanceAs (Decidable (record.key = key ∧
      ∃ held ∈ record.value, Text.Contains alike held sought))

section Truth

variable {alike : Char → Char → Bool} {database : Database} {query : Tag}

/-- A search looks at nothing but the row of the tag. -/
theorem Tag.search_truth_congr {params : Params} {scope scope' : Scope}
    (same : scope "t" = scope' "t") :
    query.search.truth alike database params scope =
      query.search.truth alike database params scope' := by
  unfold search
  split <;> simp only [Search.truth, Condition.truth, Operand.value, same]

/-- A search is true of the rows of the tags that are sought, and false or unknown of others. -/
theorem Tag.search_truth_iff {scope : Scope} {record : StoredTag} (window : PageWindow)
    (shown : (scope "t").Shows record) :
    query.search.truth alike database ((Schema.tagConditionParams query).withWindow window) scope =
      some true ↔ record.SoughtBy alike query := by
  obtain ⟨-, key, value, -⟩ := shown
  rcases query with ⟨name, _ | sought⟩
  · have pattern : ((Schema.tagConditionParams ⟨name, none⟩).withWindow window).get?
        "key_pattern" = some (.text (Pattern.containing name)) := by
      rw [Params.get?_withWindow _ _ (by decide) (by decide)]
      rfl
    simp only [search, Search.truth, Operand.value, pattern, key, Option.getD_some]
    exact (Value.matchedBy_containing alike record.key name).eq_true_iff
  · have exactly : ((Schema.tagConditionParams ⟨name, some sought⟩).withWindow window).get?
        "tag_key" = some (.text name) := by
      rw [Params.get?_withWindow _ _ (by decide) (by decide)]
      rfl
    have pattern : ((Schema.tagConditionParams ⟨name, some sought⟩).withWindow window).get?
        "value_pattern" = some (.text (Pattern.containing sought)) := by
      rw [Params.get?_withWindow _ _ (by decide) (by decide)]
      rfl
    simp only [search, Search.truth, Condition.truth, Operand.value, exactly, pattern, key, value,
      Option.getD_some, Truth.and_eq_true_iff, Value.equals_eq_true_iff]
    refine and_congr (by simp) ?_
    cases record.value with
    | none => simp [Value.ofText?, Value.ofOption, Value.matchedBy]
    | some held =>
      refine (Value.matchedBy_containing alike held sought).eq_true_iff.trans ?_
      simp

end Truth

/-- What a listing reads: a table, the rows joined to each of its own, the search that these
pass, and the operand by whose value they are gathered. -/
structure Lookup where
  source : Source
  joined : Source
  on : Condition
  search : Search
  grouping : Operand
deriving DecidableEq, Repr

/-- What was read, when it is all of the input. -/
def Token.whole? {α : Type} : Option (α × List Token) → Option α
  | some (read, []) => some read
  | _ => none

/-- What a statement with one left join is read as. -/
def Statement.lookup? : Statement → Option Lookup
  | .select { source := source, joins := [⟨.left, joined, on⟩], condition := some search,
              grouping := some grouping, groupCondition := none, .. } => do
    return {
      source := ← Token.whole? (Source.read (Token.ofText source.toList))
      joined := ← Token.whole? (Source.read (Token.ofText joined.toList))
      on := ← Condition.read? on
      search := ← Search.read? search
      grouping := ← Token.whole? (Operand.read (Token.ofText grouping.toList)) }
  | _ => none

namespace Lookup

variable (lookup : Lookup) (alike : Char → Char → Bool) (database : Database) (params : Params)

/-- A row of the table with each row that is joined to it. -/
def joinedTo (row : Record) : List Scope :=
  database.leftJoin params (Scope.empty.bind lookup.source.short row) lookup.joined lookup.on

/-- The joined rows that pass the search. -/
def rows : List Scope :=
  ((database.table lookup.source.table).flatMap (lookup.joinedTo database params)).filter
    fun scope => decide (lookup.search.truth alike database params scope = some true)

/-- The rows that the lookup finds, before they are put in order and cut into pages. -/
def groups : List (List Scope) :=
  gather (lookup.grouping.value params) (lookup.rows alike database params)

end Lookup

/-- What a search for tags reads. -/
def Schema.tagLookup (schema : Schema) (query : Tag) : Lookup where
  source := ⟨schema.tags.table, "t"⟩
  joined := ⟨schema.association.table, "et"⟩
  on := .equal (.column "t" "id") (.column "et" schema.association.tagColumn)
  search := query.search
  grouping := .column "t" "id"

namespace Schema

variable {schema : Schema}

theorem lookup?_listTags (named : schema.Named) (query : Tag) (window : PageWindow) :
    (schema.listTags query window).statement.lookup? = some (schema.tagLookup query) := by
  have source : Source.read (Token.ofText (schema.tags.table ++ " t").toList) =
      some (⟨schema.tags.table, "t"⟩, []) := by
    have spaced : " t" = " " ++ "t" := rfl
    rw [spaced, ← String.append_assoc]
    exact Source.read_text named.tagTable (by simp) (by decide)
  have joined : Source.read (Token.ofText (schema.association.table ++ " " ++ "et").toList) =
      some (⟨schema.association.table, "et"⟩, []) :=
    Source.read_text named.associationTable (by simp) (by decide)
  have on : Condition.read? ("t.id" ++ " = " ++ "et" ++ "." ++ schema.association.tagColumn) =
      some (.equal (.column "t" "id") (.column "et" schema.association.tagColumn)) := by
    have dotted : "t.id" = "t" ++ "." ++ "id" := rfl
    rw [dotted]
    exact Condition.read?_equal_columns (by decide) (by decide) (by decide)
      (all_isNameCharacter_column (by decide) named.tagColumn)
  have grouping : Operand.read (Token.ofText "t.id".toList) = some (.column "t" "id", []) := rfl
  simp only [listTags, AssociationTable.join, Statement.lookup?, source, joined, on,
    read?_tagCondition, grouping, Token.whole?]
  rfl

variable {database : Database} {contents : Contents}

/-- The rows that are joined to a tag are rows of that tag. -/
theorem tag_of_mem_joinedTo {query : Tag} {params : Params} {row : Record} {scope : Scope}
    (member : scope ∈ (schema.tagLookup query).joinedTo database params row) :
    scope "t" = row := by
  rcases (Database.mem_leftJoin_iff ..).mp member with ⟨pair, _, _, rfl⟩ | ⟨_, rfl⟩ <;>
    simp [tagLookup, Scope.bind]

/-- The rows of a table of tags that a search is true of. -/
def passing (schema : Schema) (alike : Char → Char → Bool) (database : Database) (query : Tag)
    (params : Params) : List Record :=
  (database.table schema.tags.table).filter fun row =>
    decide (query.search.truth alike database params (Scope.empty.bind "t" row) = some true)

/-- The joined rows that pass are those of the tags whose own row passes. -/
theorem rows_tagLookup (alike : Char → Char → Bool) (query : Tag) (params : Params) :
    (schema.tagLookup query).rows alike database params =
      (schema.passing alike database query params).flatMap
        ((schema.tagLookup query).joinedTo database params) := by
  refine filter_flatMap_of_run fun row _ scope member => ?_
  have same : scope "t" = Scope.empty.bind "t" row "t" :=
    (tag_of_mem_joinedTo member).trans (Scope.bind_self ..).symm
  simp only [tagLookup, Tag.search_truth_congr same]

/-- The groups of a lookup are those of the rows that pass, since no two have one identifier. -/
theorem groups_tagLookup (apart : ((database.table schema.tags.table).map (· "id")).Nodup)
    (alike : Char → Char → Bool) (query : Tag) (params : Params) :
    (schema.tagLookup query).groups alike database params =
      (schema.passing alike database query params).map
        ((schema.tagLookup query).joinedTo database params) := by
  rw [Lookup.groups, rows_tagLookup]
  exact gather_flatMap (apart.sublist (List.filter_sublist.map _))
    (fun row _ => Database.leftJoin_ne_nil _ _ _ _ _)
    (fun row _ scope member => congrFun (tag_of_mem_joinedTo member) "id")

/-- The rows that pass are those of the tags that are sought. -/
theorem shows_passing (stored : database.Holds schema contents) (alike : Char → Char → Bool)
    (query : Tag) (window : PageWindow) :
    List.Forall₂ Record.Shows
      (schema.passing alike database query (schema.listTags query window).params)
      (contents.tags.filter (StoredTag.SoughtBy alike query ·)) := by
  refine List.rel_filter (fun row record shows => ?_) stored.tags
  have seen : (Scope.empty.bind "t" row "t").Shows record := by rwa [Scope.bind_self]
  exact decide_eq_true_iff.trans ((Tag.search_truth_iff window seen).trans decide_eq_true_iff.symm)

/-- The identifiers in a table of tags are those of the tags. -/
theorem nodup_identifiers (stored : database.Holds schema contents)
    (ids : (contents.tags.map StoredTag.id).Nodup) :
    ((database.table schema.tags.table).map (· "id")).Nodup := by
  have names : (database.table schema.tags.table).map (· "id") =
      (contents.tags.map StoredTag.id).map Value.ofTagId := by
    rw [List.map_map]
    exact List.forall₂_eq_eq_eq ▸ List.rel_map (fun _ _ shows => shows.1) stored.tags
  exact names ▸ ids.map fun _ _ => Value.ofTagId_inj.mp

/-- The pattern for a text is well formed and matches what contains the text, whatever it is made
of. A search for tags therefore finds the tags that are sought and no others: its statement is
read as a lookup that finds one group for each of them, which is made of rows of the tag. -/
theorem listTags_finds (alike : Char → Char → Bool) :
    (∀ whole part, ∃ parts, Pattern.parts? '\\' (Pattern.containing part).toList = some parts ∧
      (Pattern.admits alike parts whole.toList ↔ Text.Contains alike whole part)) ∧
    ∀ (schema : Schema) (contents : Contents) (database : Database),
      schema.check = .ok () → database.Holds schema contents →
      (contents.tags.map StoredTag.id).Nodup → ∀ (query : Tag) (window : PageWindow),
        ∃ lookup, (schema.listTags query window).statement.lookup? = some lookup ∧
          List.Forall₂ (fun group record => group ≠ [] ∧ ∀ scope ∈ group, (scope "t").Shows record)
            (lookup.groups alike database (schema.listTags query window).params)
            (contents.tags.filter (StoredTag.SoughtBy alike query ·)) := by
  constructor
  · exact fun whole part =>
      ⟨_, Pattern.parts?_containing part, Pattern.admits_containingParts_iff⟩
  · intro schema contents database checked stored ids query window
    refine ⟨_, lookup?_listTags (named_of_check checked) query window, ?_⟩
    rw [groups_tagLookup (nodup_identifiers stored ids), List.forall₂_map_left_iff]
    refine (shows_passing stored alike query window).imp fun row record shows => ⟨?_, ?_⟩
    · exact Database.leftJoin_ne_nil _ _ _ _ _
    · exact fun scope member => tag_of_mem_joinedTo member ▸ shows

end Schema

/-- Two values that contain what is sought but for a wildcard in it, and a tag without a value. -/
def sampleDiscounts : Contents where
  tags := [⟨⟨1⟩, "discount", some "Over 50%", .ordinary⟩,
    ⟨⟨2⟩, "discount", some "over 500", .ordinary⟩, ⟨⟨3⟩, "discount", none, .ordinary⟩]
  pairs := [(7, ⟨1⟩), (8, ⟨1⟩)]

/-- The same letter, in either case. -/
def sameLetter (one two : Char) : Bool := one.toLower == two.toLower

/-- A wildcard in what is sought stands for itself, and the letters for either case. -/
theorem Schema.listTags_finds_wildcard :
    ({} : Schema).check = .ok () ∧
      (Database.ofContents {} sampleDiscounts).Holds {} sampleDiscounts ∧
      (sampleDiscounts.tags.map StoredTag.id).Nodup ∧
      ∃ lookup, (Schema.listTags {} (Tag.valued "discount" "r 50%") (.first 10)).statement.lookup? =
          some lookup ∧
        List.Forall₂ (fun group record => group ≠ [] ∧ ∀ scope ∈ group, (scope "t").Shows record)
          (lookup.groups sameLetter (Database.ofContents {} sampleDiscounts)
            (Schema.listTags {} (Tag.valued "discount" "r 50%") (.first 10)).params)
          [⟨⟨1⟩, "discount", some "Over 50%", .ordinary⟩] := by
  have checked : ({} : Schema).check = .ok () := by decide
  have stored : (Database.ofContents {} sampleDiscounts).Holds {} sampleDiscounts :=
    Database.ofContents_holds sampleDiscounts (by decide) (by decide)
  have ids : (sampleDiscounts.tags.map StoredTag.id).Nodup := by decide
  have sought : sampleDiscounts.tags.filter
      (StoredTag.SoughtBy sameLetter (Tag.valued "discount" "r 50%") ·) =
        [⟨⟨1⟩, "discount", some "Over 50%", .ordinary⟩] := by decide
  obtain ⟨lookup, read, found⟩ := (Schema.listTags_finds sameLetter).2 {} sampleDiscounts _
    checked stored ids (Tag.valued "discount" "r 50%") (.first 10)
  exact ⟨checked, stored, ids, lookup, read, sought ▸ found⟩

end TagQuery
