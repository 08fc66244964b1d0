import TagQuery.Proofs.Action.Run

/-! Steps that answer as others do which see a view of their state. -/

namespace TagQuery.Action

variable {ε ε' σ σ' τ τ' α β : Type} {view : σ → σ'}

/-- A step answers as the other one does on the view, and what it leaves is seen as what the
other one leaves. -/
def Mirrors (view : σ → σ') (step : Action ε σ α) (seen : Action ε σ' α) : Prop :=
  ∀ state, seen.runFrom (view state) = ((step.runFrom state).1, view (step.runFrom state).2)

namespace Mirrors

theorem pure (value : α) :
    Mirrors view (Pure.pure value : Action ε σ α) (Pure.pure value) :=
  fun _ => rfl

theorem throw (fault : ε) :
    Mirrors view (MonadExcept.throw fault : Action ε σ α) (MonadExcept.throw fault) :=
  fun _ => rfl

theorem ofExcept (result : Except ε α) :
    Mirrors view (Action.ofExcept result) (Action.ofExcept result) :=
  fun _ => rfl

theorem modify {change : σ → σ} {change' : σ' → σ'}
    (alike : ∀ state, change' (view state) = view (change state)) :
    Mirrors view (modify change : Action ε σ PUnit) (modify change') :=
  fun state => congrArg (Prod.mk _) (alike state)

theorem mapFault {step : Action ε σ α} {seen : Action ε σ' α} (mirrors : Mirrors view step seen)
    (restate : ε → ε') : Mirrors view (step.mapFault restate) (seen.mapFault restate) := by
  intro state
  rw [runFrom_mapFault, mirrors state, runFrom_mapFault]

theorem attempt {step : Action ε σ α} {seen : Action ε σ' α} (mirrors : Mirrors view step seen) :
    Mirrors view (step.attempt : Action ε' σ _) seen.attempt := by
  intro state
  rw [runFrom_attempt, mirrors state, runFrom_attempt]

theorem discard {step : Action ε σ α} {seen : Action ε σ' α} (mirrors : Mirrors view step seen) :
    Mirrors view (Functor.discard step : Action ε σ PUnit) (Functor.discard seen) := by
  intro state
  rw [runFrom_discard, mirrors state, runFrom_discard]

/-- A step on a part that is seen as the other part. -/
theorem onPart {step : Action ε σ α} {seen : Action ε σ' α} (mirrors : Mirrors view step seen)
    {whole : τ → τ'} {part : τ → σ} {part' : τ' → σ'} {replace : τ → σ → τ}
    {replace' : τ' → σ' → τ'} (parts : ∀ state, part' (whole state) = view (part state))
    (replaces : ∀ state after, replace' (whole state) (view after) = whole (replace state after)) :
    Mirrors whole (step.onPart part replace) (seen.onPart part' replace') := by
  intro state
  rw [runFrom_onPart, parts, mirrors (part state), replaces, runFrom_onPart]

theorem bind {step : Action ε σ α} {seen : Action ε σ' α} {next : α → Action ε σ β}
    {next' : α → Action ε σ' β} (first : Mirrors view step seen)
    (second : ∀ value, Mirrors view (next value) (next' value)) :
    Mirrors view (step >>= next) (seen >>= next') := by
  intro state
  rw [runFrom_bind, first state, runFrom_bind]
  rcases step.runFrom state with ⟨fault | value, middle⟩
  · rfl
  · exact second value middle

/-- Steps that go on from the states they find. -/
theorem get_bind {next : σ → Action ε σ β} {next' : σ' → Action ε σ' β}
    (second : ∀ state, Mirrors view (next state) (next' (view state))) :
    Mirrors view (MonadState.get >>= next : Action ε σ β) (MonadState.get >>= next') :=
  fun state => second state state

theorem foldlM {run : β → α → Action ε σ β} {run' : β → α → Action ε σ' β}
    (each : ∀ before item, Mirrors view (run before item) (run' before item)) (start : β)
    (items : List α) : Mirrors view (items.foldlM run start) (items.foldlM run' start) := by
  induction items generalizing start with
  | nil => exact pure start
  | cons first rest ih =>
    rw [List.foldlM_cons, List.foldlM_cons]
    apply (each start first).bind
    intro next
    exact ih next

end Mirrors

end TagQuery.Action
