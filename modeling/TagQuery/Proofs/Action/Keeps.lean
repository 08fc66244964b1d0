import TagQuery.Proofs.Action.Run

/-! Properties of a state that a step leaves in force, whether it succeeds or fails. -/

namespace TagQuery.Action

variable {ε ε' σ α β : Type} {holds : σ → Prop}

def Keeps (holds : σ → Prop) (action : Action ε σ α) : Prop :=
  ∀ state, holds state → holds (action.runFrom state).2

namespace Keeps

theorem pure (value : α) : Keeps holds (Pure.pure value : Action ε σ α) :=
  fun _ held => held

theorem get : Keeps holds (MonadState.get : Action ε σ σ) :=
  fun _ held => held

theorem throw (fault : ε) : Keeps holds (MonadExcept.throw fault : Action ε σ α) :=
  fun _ held => held

theorem ofExcept (result : Except ε α) : Keeps holds (Action.ofExcept result) :=
  fun _ held => held

theorem mapFault {restate : ε → ε'} {action : Action ε σ α} (kept : Keeps holds action) :
    Keeps holds (action.mapFault restate) := kept

theorem attempt {action : Action ε σ α} (kept : Keeps holds action) :
    Keeps holds (action.attempt : Action ε' σ _) := kept

theorem discard {action : Action ε σ α} (kept : Keeps holds action) :
    Keeps holds (Functor.discard action : Action ε σ PUnit) := by
  intro state held
  rw [runFrom_discard]
  exact kept state held

theorem modify {change : σ → σ} (kept : ∀ state, holds state → holds (change state)) :
    Keeps holds (modify change : Action ε σ PUnit) := kept

/-- What holds after one step still holds after steps that keep it. -/
theorem bind_of {action : Action ε σ α} {next : α → Action ε σ β} {state : σ}
    (first : holds (action.runFrom state).2) (second : ∀ value, Keeps holds (next value)) :
    holds ((action >>= next).runFrom state).2 := by
  rw [runFrom_bind]
  rcases ran : action.runFrom state with ⟨fault | value, middle⟩
  · rwa [ran] at first
  · rw [ran] at first
    exact second value middle first

theorem bind {action : Action ε σ α} {next : α → Action ε σ β} (first : Keeps holds action)
    (second : ∀ value, Keeps holds (next value)) : Keeps holds (action >>= next) :=
  fun state held => bind_of (first state held) second

/-- What is known of the value of the first step is known to the second. -/
theorem bind_knowing {action : Action ε σ α} {next : α → Action ε σ β} {known : α → Prop}
    (first : Keeps holds action)
    (ensured : ∀ state value after, action.runFrom state = (.ok value, after) → known value)
    (second : ∀ value, known value → Keeps holds (next value)) : Keeps holds (action >>= next) := by
  intro state held
  have kept := first state held
  rw [runFrom_bind]
  rcases ran : action.runFrom state with ⟨fault | value, middle⟩
  · rwa [ran] at kept
  · rw [ran] at kept
    exact second value (ensured state value middle ran) middle kept

/-- A step that goes on from the state it finds. -/
theorem get_bind {next : σ → Action ε σ β}
    (second : ∀ state, holds state → holds ((next state).runFrom state).2) :
    Keeps holds (MonadState.get >>= next : Action ε σ β) :=
  fun state held => second state held

/-- A step that goes on only from a good result. -/
theorem ofExcept_bind {result : Except ε α} {next : α → Action ε σ β}
    (second : ∀ value, result = .ok value → Keeps holds (next value)) :
    Keeps holds (Action.ofExcept result >>= next) := by
  cases result with
  | error fault => exact fun _ held => held
  | ok value => exact second value rfl

theorem mapM {read : α → Action ε σ β} {items : List α}
    (each : ∀ item ∈ items, Keeps holds (read item)) : Keeps holds (items.mapM read) := by
  induction items with
  | nil => exact pure []
  | cons first rest ih =>
    rw [List.mapM_cons]
    apply (each first List.mem_cons_self).bind
    intro answer
    exact (ih fun item member => each item (List.mem_cons_of_mem _ member)).bind fun _ => pure _

theorem forM {run : α → Action ε σ PUnit} {items : List α}
    (each : ∀ item ∈ items, Keeps holds (run item)) : Keeps holds (items.forM run) := by
  induction items with
  | nil => exact fun _ held => held
  | cons first rest ih =>
    apply (each first List.mem_cons_self).bind
    intro _
    exact ih fun item member => each item (List.mem_cons_of_mem _ member)

theorem foldlM {run : β → α → Action ε σ β} {items : List α}
    (each : ∀ item ∈ items, ∀ before, Keeps holds (run before item)) (start : β) :
    Keeps holds (items.foldlM run start) := by
  induction items generalizing start with
  | nil => exact pure start
  | cons first rest ih =>
    rw [List.foldlM_cons]
    apply (each first List.mem_cons_self start).bind
    intro next
    exact ih (fun item member => each item (List.mem_cons_of_mem _ member)) next

end Keeps

end TagQuery.Action
