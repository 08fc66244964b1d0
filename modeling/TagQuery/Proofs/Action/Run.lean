import TagQuery.Action

/-! How steps over a state run: one equation for each way of making a step, and the parts
that a successful sequence or a restated fault comes from. -/

namespace TagQuery.Action

variable {ε ε' σ τ α β : Type}

@[simp] theorem runFrom_ofFunction (step : σ → Except ε α × σ) (state : σ) :
    (ofFunction step).runFrom state = step state := rfl

@[simp] theorem runFrom_pure (value : α) (state : σ) :
    runFrom (pure value : Action ε σ α) state = (.ok value, state) := rfl

@[simp] theorem runFrom_throw (fault : ε) (state : σ) :
    runFrom (throw fault : Action ε σ α) state = (.error fault, state) := rfl

@[simp] theorem runFrom_get (state : σ) :
    runFrom (get : Action ε σ σ) state = (.ok state, state) := rfl

@[simp] theorem runFrom_modify (change : σ → σ) (state : σ) :
    runFrom (modify change : Action ε σ PUnit) state = (.ok ⟨⟩, change state) := rfl

@[simp] theorem runFrom_ofExcept (result : Except ε α) (state : σ) :
    (ofExcept result).runFrom state = (result, state) := rfl

@[simp] theorem runFrom_mapFault (restate : ε → ε') (action : Action ε σ α) (state : σ) :
    (action.mapFault restate).runFrom state =
      ((action.runFrom state).1.mapError restate, (action.runFrom state).2) := rfl

@[simp] theorem runFrom_onPart (part : τ → σ) (replace : τ → σ → τ) (action : Action ε σ α)
    (whole : τ) : (action.onPart part replace).runFrom whole =
      ((action.runFrom (part whole)).1, replace whole (action.runFrom (part whole)).2) := rfl

@[simp] theorem runFrom_attempt (action : Action ε σ α) (state : σ) :
    (action.attempt : Action ε' σ _).runFrom state =
      (.ok (action.runFrom state).1, (action.runFrom state).2) := rfl

@[simp] theorem runFrom_discard (action : Action ε σ α) (state : σ) :
    (discard action : Action ε σ PUnit).runFrom state =
      ((action.runFrom state).1.map fun _ => ⟨⟩, (action.runFrom state).2) := by
  change StateT.run (match (action.runFrom state).1 with
    | .ok _ => pure (Except.ok PUnit.unit)
    | .error fault => pure (Except.error fault)) (action.runFrom state).2 = _
  rcases action.runFrom state with ⟨result, after⟩
  cases result <;> rfl

/-- A sequence goes on with the value and the state of its first step, or stops there. -/
theorem runFrom_bind (action : Action ε σ α) (next : α → Action ε σ β) (state : σ) :
    (action >>= next).runFrom state =
      match action.runFrom state with
      | (.ok value, middle) => (next value).runFrom middle
      | (.error fault, middle) => (.error fault, middle) := by
  change (ExceptT.bindCont next (action.runFrom state).1).run (action.runFrom state).2 = _
  rcases action.runFrom state with ⟨result, middle⟩
  cases result <;> rfl

theorem runFrom_bind_of_ok {action : Action ε σ α} {next : α → Action ε σ β}
    {state middle : σ} {value : α} (first : action.runFrom state = (.ok value, middle)) :
    (action >>= next).runFrom state = (next value).runFrom middle := by
  rw [runFrom_bind, first]

theorem runFrom_bind_of_error {action : Action ε σ α} {next : α → Action ε σ β}
    {state middle : σ} {fault : ε} (first : action.runFrom state = (.error fault, middle)) :
    (action >>= next).runFrom state = (.error fault, middle) := by
  rw [runFrom_bind, first]

/-- A sequence that succeeded ran both of its steps. -/
theorem of_runFrom_bind_ok {action : Action ε σ α} {next : α → Action ε σ β}
    {state after : σ} {result : β} (ran : (action >>= next).runFrom state = (.ok result, after)) :
    ∃ value middle, action.runFrom state = (.ok value, middle) ∧
      (next value).runFrom middle = (.ok result, after) := by
  rw [runFrom_bind] at ran
  rcases first : action.runFrom state with ⟨_ | value, middle⟩
  · simp [first] at ran
  · exact ⟨value, middle, rfl, by simpa [first] using ran⟩

/-- Steps in a row that succeeded gave one answer each. -/
theorem length_of_runFrom_mapM_ok {step : α → Action ε σ β} {state after : σ} {items : List α}
    {answers : List β} (ran : (items.mapM step).runFrom state = (.ok answers, after)) :
    answers.length = items.length := by
  induction items generalizing state answers with
  | nil =>
    cases ran
    rfl
  | cons first rest ih =>
    rw [List.mapM_cons] at ran
    obtain ⟨_, _, _, more⟩ := of_runFrom_bind_ok ran
    obtain ⟨_, _, tail, last⟩ := of_runFrom_bind_ok more
    cases last
    rw [List.length_cons, List.length_cons, ih tail]

/-- Steps that leave the state alone when they succeed leave it alone in a row. -/
theorem of_runFrom_mapM_ok {read : α → Action ε σ β} {value : α → β} {state after : σ}
    {items : List α} {answers : List β}
    (steady : ∀ item answer later, (read item).runFrom state = (.ok answer, later) →
      later = state ∧ answer = value item)
    (ran : (items.mapM read).runFrom state = (.ok answers, after)) :
    after = state ∧ answers = items.map value := by
  induction items generalizing answers after with
  | nil =>
    cases ran
    exact ⟨rfl, rfl⟩
  | cons first rest ih =>
    rw [List.mapM_cons] at ran
    obtain ⟨answer, middle, head, more⟩ := of_runFrom_bind_ok ran
    obtain ⟨rfl, rfl⟩ := steady _ _ _ head
    obtain ⟨others, later, tail, last⟩ := of_runFrom_bind_ok more
    obtain ⟨rfl, rfl⟩ := ih tail
    cases last
    exact ⟨rfl, rfl⟩

end TagQuery.Action
