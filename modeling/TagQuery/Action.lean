/-!
Steps over a state that may fail. What a step did to the state before it failed stays
done, as it does in the stores and caches these steps describe.
-/

namespace TagQuery

abbrev Action (ε σ α : Type) := ExceptT ε (StateM σ) α

namespace Action

variable {ε ε' σ τ α : Type}

/-- The result of a step and the state after it. -/
def runFrom (action : Action ε σ α) (state : σ) : Except ε α × σ :=
  StateT.run (ExceptT.run action) state

/-- A step given by its result and the state after it. -/
def ofFunction (step : σ → Except ε α × σ) : Action ε σ α :=
  ExceptT.mk (fun state => step state)

def ofExcept (result : Except ε α) : Action ε σ α :=
  ofFunction fun state => (result, state)

/-- The same step with its fault restated. -/
def mapFault (restate : ε → ε') (action : Action ε σ α) : Action ε' σ α :=
  ofFunction fun state =>
    let (result, after) := action.runFrom state
    (result.mapError restate, after)

/-- The same step on one part of a larger state. -/
def onPart (part : τ → σ) (replace : τ → σ → τ) (action : Action ε σ α) : Action ε τ α :=
  ofFunction fun whole =>
    let (result, after) := action.runFrom (part whole)
    (result, replace whole after)

/-- The step with its fault as an answer. -/
def attempt (action : Action ε σ α) : Action ε' σ (Except ε α) :=
  ofFunction fun state =>
    let (result, after) := action.runFrom state
    (.ok result, after)

end Action

end TagQuery
