import TagQuery.Catalog.Operations

/-! The calls of a caller as data, so that runs of them are lists. -/

namespace TagQuery

/-- A call that may change what is stored or cached. -/
inductive Command where
  | loadCache
  | createTags (drafts : List TagDraft)
  | addTag (entity : Int64) (tag : Tag)
  | removeTag (entity : Int64) (tag : Tag)
  | attachTag (entity : Int64) (raw : String) (type : TagKind)

/-- What a command answers. -/
inductive Reply where
  | counted (number : Nat)
  | created (records : List StoredTag)
  | changed (new : Bool)
deriving DecidableEq, Repr

/-- The answers to commands one after another, and the state after them. -/
def Command.runAll {S ρ : Type} (step : S → Command → ρ × S) : S → List Command → List ρ × S
  | state, [] => ([], state)
  | state, command :: rest =>
    let ended := step state command
    let later := runAll step ended.2 rest
    (ended.1 :: later.1, later.2)

/-- A command or a listing. -/
inductive Request : Type 1 where
  | command (command : Command)
  | listEntities {α : Type} (shape : RowShape α) (filter : Filter) (window : PageWindow)
  | listTags (search : Tag) (window : PageWindow)
  | entityTags (entity : Int64)

namespace Catalog

variable {σ ξ : Type} [IdCache σ] [Executor ξ]

/-- The result of a step as an answer, and the catalog after it. -/
def replying {α : Type} (reply : α → Reply) (step : Step σ ξ α) (catalog : Catalog σ ξ) :
    Except Failure Reply × Catalog σ ξ :=
  ((step.runFrom catalog).1.map reply, (step.runFrom catalog).2)

/-- The answer to a command and the catalog after it. -/
def perform (catalog : Catalog σ ξ) : Command → Except Failure Reply × Catalog σ ξ
  | .loadCache => replying .counted loadCache catalog
  | .createTags drafts => replying .created (createTags drafts) catalog
  | .addTag entity tag => replying .changed (addTag entity tag) catalog
  | .removeTag entity tag => replying .changed (removeTag entity tag) catalog
  | .attachTag entity raw type => replying .changed (attachTag entity raw type) catalog

/-- The catalog after a request. -/
def serve (catalog : Catalog σ ξ) : Request → Catalog σ ξ
  | .command command => (catalog.perform command).2
  | @Request.listEntities α _ filter window =>
    ((listEntities filter window : Step σ ξ (Page α)).runFrom catalog).2
  | .listTags search window => ((listTags search window).runFrom catalog).2
  | .entityTags entity => ((entityTags entity).runFrom catalog).2

end Catalog

/-- What a request is answered with. -/
def Request.Answer : Request → Type
  | .command .loadCache => Nat
  | .command (.createTags _) => List StoredTag
  | .command (.addTag _ _) => Bool
  | .command (.removeTag _ _) => Bool
  | .command (.attachTag _ _ _) => Bool
  | @Request.listEntities α _ _ _ => Page α
  | .listTags _ _ => Page TagUsage
  | .entityTags _ => List TagUsage

/-- The step of a catalog that answers a request. -/
def Request.step {σ ξ : Type} [IdCache σ] [Executor ξ] :
    (request : Request) → Catalog.Step σ ξ request.Answer
  | .command .loadCache => Catalog.loadCache
  | .command (.createTags drafts) => Catalog.createTags drafts
  | .command (.addTag entity tag) => Catalog.addTag entity tag
  | .command (.removeTag entity tag) => Catalog.removeTag entity tag
  | .command (.attachTag entity raw type) => Catalog.attachTag entity raw type
  | @Request.listEntities α _ filter window =>
    (Catalog.listEntities filter window : Catalog.Step σ ξ (Page α))
  | .listTags search window => Catalog.listTags search window
  | .entityTags entity => Catalog.entityTags entity

theorem Catalog.serve_eq_step {σ ξ : Type} [IdCache σ] [Executor ξ] (catalog : Catalog σ ξ)
    (request : Request) : catalog.serve request = (request.step.runFrom catalog).2 := by
  cases request with
  | command command => cases command <;> rfl
  | listEntities shape filter window => rfl
  | listTags search window => rfl
  | entityTags entity => rfl

end TagQuery
