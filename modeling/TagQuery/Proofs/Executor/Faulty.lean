import TagQuery.Proofs.Executor.Observed

/-! An executor that fails when it is told to, before a statement is run or after it. -/

namespace TagQuery

inductive Mishap where
  | beforehand
  | afterwards
deriving DecidableEq, Repr

/-- An executor and what befalls the calls to it, one after another. -/
structure Faulty (ξ : Type) where
  executor : ξ
  mishaps : List (Option Mishap) := []

namespace Faulty

variable {ξ : Type}

def lost : StorageFault := .driver "connection lost"

/-- Make a call, unless something befalls it. -/
def making {α : Type} (action : Action StorageFault ξ α) : Action StorageFault (Faulty ξ) α :=
  .ofFunction fun faulty =>
    let (result, after) := action.runFrom faulty.executor
    match faulty.mishaps with
    | [] => (result, ⟨after, []⟩)
    | none :: rest => (result, ⟨after, rest⟩)
    | some .beforehand :: rest => (.error lost, ⟨faulty.executor, rest⟩)
    | some .afterwards :: rest => (.error lost, ⟨after, rest⟩)

variable [Executor ξ]

instance : Executor (Faulty ξ) where
  query statement := making (Executor.query statement)
  execute statement := making (Executor.execute statement)

omit [Executor ξ] in
/-- A call is made or it is not. -/
theorem executor_making {α : Type} (action : Action StorageFault ξ α) (faulty : Faulty ξ) :
    ((making action).runFrom faulty).2.executor = faulty.executor ∨
      ((making action).runFrom faulty).2.executor = (action.runFrom faulty.executor).2 := by
  rcases faulty with ⟨executor, _ | ⟨_ | _ | _, rest⟩⟩
  · exact .inr rfl
  · exact .inr rfl
  · exact .inl rfl
  · exact .inr rfl

omit [Executor ξ] in
/-- What is answered is the answer of the executor. -/
theorem of_making_ok {α : Type} {action : Action StorageFault ξ α} {faulty after : Faulty ξ}
    {answer : α} (ran : (making action).runFrom faulty = (.ok answer, after)) :
    action.runFrom faulty.executor = (.ok answer, after.executor) := by
  have result := congrArg Prod.fst ran
  have state := congrArg (fun ended => ended.2.executor) ran
  rcases faulty with ⟨executor, _ | ⟨_ | _ | _, rest⟩⟩
  · exact Prod.ext result state
  · exact Prod.ext result state
  · cases result
  · cases result

theorem effect_cases (call : ExecutorCall) (faulty : Faulty ξ) :
    (call.effect faulty).executor = faulty.executor ∨
      (call.effect faulty).executor = call.effect faulty.executor := by
  cases call with
  | query statement => exact executor_making (Executor.query statement) faulty
  | execute statement => exact executor_making (Executor.execute statement) faulty

end Faulty

end TagQuery
