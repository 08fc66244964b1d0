import Mathlib.Logic.Relation
import TagQuery.Executor.Basic
import TagQuery.Proofs.Action.Run

/-! The calls that take an executor from one state to another, and an executor that keeps
each call with the state it was made in. -/

namespace TagQuery

variable {ξ : Type}

/-- What a call leaves of an executor, whether it fails or not. -/
def ExecutorCall.effect [Executor ξ] (call : ExecutorCall) (executor : ξ) : ξ :=
  match call with
  | .query statement => ((Executor.query statement).runFrom executor).2
  | .execute statement => ((Executor.execute statement).runFrom executor).2

/-- Calls lead from one state to another, and each is allowed in the state it is made in. -/
def CallsLead [Executor ξ] (allowed : ξ → ExecutorCall → Prop) : ξ → ξ → Prop :=
  Relation.ReflTransGen fun before after => ∃ call, allowed before call ∧ after = call.effect before

namespace CallsLead

variable [Executor ξ] {allowed allowed' : ξ → ExecutorCall → Prop} {before middle after : ξ}

theorem refl (executor : ξ) : CallsLead allowed executor executor :=
  Relation.ReflTransGen.refl

theorem single {call : ExecutorCall} (allows : allowed before call) :
    CallsLead allowed before (call.effect before) :=
  Relation.ReflTransGen.single ⟨call, allows, rfl⟩

theorem trans (first : CallsLead allowed before middle) (second : CallsLead allowed middle after) :
    CallsLead allowed before after :=
  Relation.ReflTransGen.trans first second

theorem mono (weaken : ∀ executor call, allowed executor call → allowed' executor call)
    (led : CallsLead allowed before after) : CallsLead allowed' before after := by
  refine Relation.ReflTransGen.mono ?_ before after led
  rintro _ _ ⟨call, allows, same⟩
  exact ⟨call, weaken _ call allows, same⟩

/-- A relation that goes along with every allowed call goes along with all of them. -/
theorem follows (relates : ξ → ξ → Prop) (same : ∀ executor, relates executor executor)
    (compose : ∀ {first second third}, relates first second → relates second third →
      relates first third)
    (each : ∀ executor call, allowed executor call → relates executor (call.effect executor))
    (led : CallsLead allowed before after) : relates before after := by
  induction led with
  | refl => exact same _
  | tail _ called ih =>
    obtain ⟨call, allows, rfl⟩ := called
    exact compose ih (each _ call allows)

end CallsLead

/-- An executor with every call made to it, failed ones included, and the state it was in. -/
structure Observed (ξ : Type) where
  executor : ξ
  history : List (ξ × ExecutorCall) := []

namespace Observed

/-- Note a call with the state before it, and make it. -/
def making {α : Type} (call : ExecutorCall) (action : Action StorageFault ξ α) :
    Action StorageFault (Observed ξ) α := do
  modify fun observed =>
    { observed with history := observed.history ++ [(observed.executor, call)] }
  action.onPart Observed.executor fun observed executor => { observed with executor }

variable [Executor ξ]

instance : Executor (Observed ξ) where
  query statement := making (.query statement) (Executor.query statement)
  execute statement := making (.execute statement) (Executor.execute statement)

theorem runFrom_query (statement : PositionalStatement) (observed : Observed ξ) :
    (Executor.query statement).runFrom observed =
      (((Executor.query statement).runFrom observed.executor).1,
        ⟨((Executor.query statement).runFrom observed.executor).2,
          observed.history ++ [(observed.executor, .query statement)]⟩) :=
  rfl

theorem runFrom_execute (statement : PositionalStatement) (observed : Observed ξ) :
    (Executor.execute statement).runFrom observed =
      (((Executor.execute statement).runFrom observed.executor).1,
        ⟨((Executor.execute statement).runFrom observed.executor).2,
          observed.history ++ [(observed.executor, .execute statement)]⟩) :=
  rfl

theorem effect_eq (call : ExecutorCall) (observed : Observed ξ) : call.effect observed =
    ⟨call.effect observed.executor, observed.history ++ [(observed.executor, call)]⟩ := by
  cases call <;> rfl

/-- Allowed calls add to the history, and each of them was allowed where it was made. -/
theorem history_of_callsLead (allowed : ξ → ExecutorCall → Prop) {before after : Observed ξ}
    (led : CallsLead (fun observed => allowed observed.executor) before after) :
    ∃ made, after.history = before.history ++ made ∧ ∀ entry ∈ made, allowed entry.1 entry.2 := by
  induction led with
  | refl => exact ⟨[], (List.append_nil _).symm, by simp⟩
  | @tail middle _ _ called ih =>
    obtain ⟨call, allows, rfl⟩ := called
    obtain ⟨made, added, good⟩ := ih
    refine ⟨made ++ [(middle.executor, call)], ?_, fun entry member => ?_⟩
    · rw [effect_eq, added, List.append_assoc]
    · rcases List.mem_append.mp member with earlier | last
      · exact good entry earlier
      · obtain rfl := List.mem_singleton.mp last
        exact allows

end Observed

end TagQuery
