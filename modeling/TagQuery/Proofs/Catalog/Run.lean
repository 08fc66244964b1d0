import TagQuery.Catalog.Basic
import TagQuery.Proofs.Action.Run

/-! Statements that a catalog has its executor run. -/

namespace TagQuery

def Prepared.Binds (prepared : Prepared) (dialect : Dialect) (bound : PositionalStatement) : Prop :=
  prepared.statement.bind dialect prepared.params = .ok bound

namespace Catalog

variable {σ ξ α : Type} (catalog : Catalog σ ξ)

@[simp] theorem runFrom_report (event : Event) :
    (report event : Step σ ξ Unit).runFrom catalog =
      (.ok (), { catalog with events := catalog.events ++ [event] }) := rfl

theorem runFrom_onExecutor (action : Action StorageFault ξ α) :
    (onExecutor action : Step σ ξ α).runFrom catalog =
      match action.runFrom catalog.executor with
      | (.ok answer, executor) => (.ok answer, { catalog with executor })
      | (.error fault, executor) => (.error (.ofStorage fault),
          { catalog with executor, events := catalog.events ++ [.storageFault] }) := by
  unfold onExecutor
  rw [Action.runFrom_bind, Action.runFrom_attempt, Action.runFrom_onPart]
  rcases action.runFrom catalog.executor with ⟨fault | answer, executor⟩ <;> rfl

variable [Executor ξ] {prepared : Prepared} {bound : PositionalStatement} {executor : ξ}

theorem runFrom_query [RowShape α] {rows : List Row} {items : List α}
    (binds : prepared.Binds catalog.schema.dialect bound)
    (ran : (Executor.query bound).runFrom catalog.executor = (.ok rows, executor))
    (read : rows.mapM readRow = .ok items) :
    (query prepared : Step σ ξ (List α)).runFrom catalog = (.ok items,
      { catalog with
        executor, events := catalog.events ++ [.queried (amount items.length)] }) := by
  have fetched : (prepared.statement.fetchAll catalog.schema.dialect prepared.params .any :
      Action StorageFault ξ (List α)).runFrom catalog.executor = (.ok items, executor) := by
    have admitted : RowPromise.any.check rows.length = .ok () := rfl
    unfold Statement.fetchAll Statement.fetch
    rw [binds, Action.runFrom_bind, Action.runFrom_bind_of_ok (Action.runFrom_ofExcept _ _),
      Action.runFrom_bind_of_ok ran, admitted, ← read]
    rfl
  unfold query
  rw [Action.runFrom_bind_of_ok (Action.runFrom_get catalog), Action.runFrom_bind,
    runFrom_onExecutor, fetched]
  rfl

theorem runFrom_write {count : UInt64} (binds : prepared.Binds catalog.schema.dialect bound)
    (ran : (Executor.execute bound).runFrom catalog.executor = (.ok count, executor)) :
    (write prepared : Step σ ξ UInt64).runFrom catalog = (.ok count,
      { catalog with executor, events := catalog.events ++ [.wrote count] }) := by
  have done : (prepared.statement.run catalog.schema.dialect prepared.params :
      Action StorageFault ξ UInt64).runFrom catalog.executor = (.ok count, executor) := by
    unfold Statement.run
    rw [binds, Action.runFrom_bind_of_ok (Action.runFrom_ofExcept _ _), ran]
  unfold write
  rw [Action.runFrom_bind_of_ok (Action.runFrom_get catalog), Action.runFrom_bind,
    runFrom_onExecutor, done]
  rfl

end Catalog

end TagQuery
