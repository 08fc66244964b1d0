import TagQuery.Executor.AnswerQueue
import TagQuery.Executor.Run
import TagQuery.Proofs.Action.Outcome
import TagQuery.Proofs.Action.Run
import TagQuery.Proofs.List.First

/-! Running statements: one call of the executor with the statement bound, or none when it cannot
be bound, and rows that are counted before any of them is read. -/

namespace TagQuery

/-- A number of rows that breaks a promise, and the fault that says so. Nothing breaks the
promise of any rows. -/
inductive RowPromise.Breaks : RowPromise → Nat → StorageFault → Prop
  | one {found : Nat} : found ≠ 1 → Breaks .one found (.rowCount found 1 (some 1))
  | oneOrNone {found : Nat} : 1 < found → Breaks .oneOrNone found (.rowCount found 0 (some 1))
  | many : Breaks .many 0 (.rowCount 0 1 none)

/-- A row that cannot be read. -/
def Unshaped (α : Type) [RowShape α] (row : Row) : Prop :=
  ∃ flaw, (RowShape.ofRow row : Except RowFlaw α) = .error flaw

/-- Rows are read in their order into the items of an answer, or the first that cannot be read
decides. -/
inductive RowsRead {α β : Type} [RowShape α] (items : β → List α) (rows : List Row) :
    Except StorageFault β → Prop
  | all {answer : β} :
    List.Forall₂ (fun row item => RowShape.ofRow row = .ok item) rows (items answer) →
      RowsRead items rows (.ok answer)
  | first {row : Row} {flaw : RowFlaw} : FirstOf (Unshaped α) rows row →
    (RowShape.ofRow row : Except RowFlaw α) = .error flaw →
      RowsRead items rows (.error (.rowShape flaw))

/-- What comes of rows: a broken promise is reported, and only rows that keep it are read. -/
inductive RowPromise.Ends {β : Type} (promise : RowPromise)
    (reads : List Row → Except StorageFault β → Prop) (rows : List Row) :
    Except StorageFault β → Prop
  | broken {fault : StorageFault} : promise.Breaks rows.length fault →
    Ends promise reads rows (.error fault)
  | kept {result : Except StorageFault β} : (∀ fault, ¬ promise.Breaks rows.length fault) →
    reads rows result → Ends promise reads rows result

/-- A step runs a statement by one call of the executor, and what the executor answers decides
what comes of it. A fault of the executor is passed on, and a statement that cannot be bound
calls nothing. -/
structure Statement.RunsOnce {ξ β γ : Type} (dialect : Dialect) (params : Params)
    (statement : Statement) (call : PositionalStatement → ExecutorCall)
    (perform : PositionalStatement → Action StorageFault ξ γ)
    (ends : γ → Except StorageFault β → Prop) (step : Action StorageFault (Recorded ξ) β) : Prop where
  unbound : ∀ fault, bindText dialect params (statement.text dialect) = .error fault →
    ∀ recorded, step.runFrom recorded = (.error (.unboundParameter fault.name), recorded)
  failed : ∀ bound, bindText dialect params (statement.text dialect) = .ok bound →
    ∀ recorded fault after, (perform bound).runFrom recorded.executor = (.error fault, after) →
      step.runFrom recorded = (.error fault, ⟨after, recorded.calls ++ [call bound]⟩)
  answered : ∀ bound, bindText dialect params (statement.text dialect) = .ok bound →
    ∀ recorded answer after, (perform bound).runFrom recorded.executor = (.ok answer, after) →
      ∀ result later, step.runFrom recorded = (result, later) ↔
        ends answer result ∧ later = ⟨after, recorded.calls ++ [call bound]⟩

theorem Recorded.runFrom_query {ξ : Type} [Executor ξ] (statement : PositionalStatement)
    (recorded : Recorded ξ) : (Executor.query statement).runFrom recorded =
      (((Executor.query statement).runFrom recorded.executor).1,
        ⟨((Executor.query statement).runFrom recorded.executor).2,
          recorded.calls ++ [.query statement]⟩) :=
  rfl

theorem Recorded.runFrom_execute {ξ : Type} [Executor ξ] (statement : PositionalStatement)
    (recorded : Recorded ξ) : (Executor.execute statement).runFrom recorded =
      (((Executor.execute statement).runFrom recorded.executor).1,
        ⟨((Executor.execute statement).runFrom recorded.executor).2,
          recorded.calls ++ [.execute statement]⟩) :=
  rfl

namespace RowPromise

variable {promise : RowPromise} {found : Nat} {fault : StorageFault}

theorem admits_one_iff : one.admits found ↔ found = 1 := by
  have bounds : one.admits found = (decide (1 ≤ found) && decide (found ≤ 1)) := rfl
  simp only [bounds, Bool.and_eq_true, decide_eq_true_eq]
  omega

theorem admits_oneOrNone_iff : oneOrNone.admits found ↔ ¬ 1 < found := by
  have bounds : oneOrNone.admits found = (decide (0 ≤ found) && decide (found ≤ 1)) := rfl
  simp only [bounds, Bool.and_eq_true, decide_eq_true_eq]
  omega

theorem admits_many_iff : many.admits found ↔ found ≠ 0 := by
  have bounds : many.admits found = (decide (1 ≤ found) && true) := rfl
  simp only [bounds, Bool.and_true, decide_eq_true_eq]
  omega

@[simp] theorem check_any : any.check found = .ok () := rfl

/-- A promise is checked against its own bounds. -/
theorem check_error_iff : promise.check found = .error fault ↔ promise.Breaks found fault := by
  constructor
  · intro failed
    unfold check at failed
    split at failed
    · cases failed
    · rename_i outside
      cases failed
      cases promise with
      | one => exact .one (mt admits_one_iff.mpr outside)
      | oneOrNone => exact .oneOrNone (not_not.mp (mt admits_oneOrNone_iff.mpr outside))
      | many =>
        obtain rfl := not_not.mp (mt admits_many_iff.mpr outside)
        exact .many
      | any => exact absurd rfl outside
  · intro breaks
    cases breaks with
    | one other => exact if_neg (mt admits_one_iff.mp other)
    | oneOrNone more => exact if_neg fun admitted => admits_oneOrNone_iff.mp admitted more
    | many => rfl

theorem check_ok_iff : promise.check found = .ok () ↔ ∀ fault, ¬ promise.Breaks found fault := by
  simp only [← check_error_iff]
  cases promise.check found with
  | error fault => simp
  | ok _ => simp

end RowPromise

section Reading

variable {α : Type} [RowShape α] {rows : List Row}

theorem readRow_ok_iff {row : Row} {item : α} :
    readRow row = .ok item ↔ RowShape.ofRow row = .ok item :=
  Outcome.mapError_ok_iff

theorem readRow_error_iff {row : Row} {fault : StorageFault} :
    (readRow row : Except StorageFault α) = .error fault ↔
      ∃ flaw, (RowShape.ofRow row : Except RowFlaw α) = .error flaw ∧ fault = .rowShape flaw := by
  unfold readRow
  cases (RowShape.ofRow row : Except RowFlaw α) with
  | error flaw => simp [Except.mapError, eq_comm]
  | ok item => simp [Except.mapError]

theorem not_unshaped_iff {row : Row} :
    ¬ Unshaped α row ↔ ∃ item : α, RowShape.ofRow row = .ok item := by
  unfold Unshaped
  cases (RowShape.ofRow row : Except RowFlaw α) with
  | error flaw => simp
  | ok item => simp

theorem mapM_readRow_ok_iff {items : List α} : rows.mapM readRow = (.ok items : Except _ _) ↔
    List.Forall₂ (fun row item => RowShape.ofRow row = .ok item) rows items := by
  simp only [Outcome.mapM_ok_iff, readRow_ok_iff]

/-- The first row that cannot be read decides. -/
theorem mapM_readRow_error_iff {fault : StorageFault} :
    rows.mapM readRow = (.error fault : Except _ (List α)) ↔
      ∃ row flaw, FirstOf (Unshaped α) rows row ∧
        (RowShape.ofRow row : Except RowFlaw α) = .error flaw ∧ fault = .rowShape flaw := by
  simp only [Outcome.mapM_error_iff, readRow_ok_iff, readRow_error_iff, ← not_unshaped_iff]
  constructor
  · intro ⟨before, row, after, split, shaped, flaw, flawed, same⟩
    exact ⟨row, flaw, ⟨before, after, split, ⟨flaw, flawed⟩, shaped⟩, flawed, same⟩
  · intro ⟨row, flaw, ⟨before, after, split, _, shaped⟩, flawed, same⟩
    exact ⟨before, row, after, split, shaped, flaw, flawed, same⟩

/-- Reading rows one by one gives the items of an answer, or the flaw of the first row that has
one. -/
theorem rowsRead_iff {β : Type} {items : β → List α} {result : Except StorageFault β} :
    rows.mapM readRow = result.map items ↔ RowsRead items rows result := by
  cases result with
  | ok answer =>
    refine mapM_readRow_ok_iff.trans ⟨.all, fun read => ?_⟩
    cases read with
    | all shaped => exact shaped
  | error fault =>
    refine mapM_readRow_error_iff.trans ⟨?_, fun read => ?_⟩
    · intro ⟨row, flaw, earliest, flawed, same⟩
      rw [same]
      exact .first earliest flawed
    · cases read with
      | first earliest flawed => exact ⟨_, _, earliest, flawed, rfl⟩

/-- What a statement that promises one row reads of its rows. -/
def readFirst : List Row → Except StorageFault α
  | row :: _ => readRow row
  | [] => .error (.rowCount 0 1 (some 1))

/-- What a statement that promises at most one row reads of its rows. -/
def readAtMostFirst : List Row → Except StorageFault (Option α)
  | row :: _ => (readRow row).map some
  | [] => .ok none

/-- Reading the only row is reading all of them. -/
theorem readFirst_iff {result : Except StorageFault α} (alone : rows.length = 1) :
    readFirst rows = result ↔ RowsRead (fun item => [item]) rows result := by
  obtain ⟨row, rfl⟩ := List.length_eq_one_iff.mp alone
  have whole : [row].mapM readRow = (readFirst [row]).map fun item : α => [item] := by
    rw [List.mapM_cons, List.mapM_nil, readFirst]
    cases (readRow row : Except StorageFault α) <;> rfl
  rw [← rowsRead_iff, whole]
  exact (Outcome.map_injective (List.singleton_injective)).eq_iff.symm

theorem readAtMostFirst_iff {result : Except StorageFault (Option α)} (few : rows.length ≤ 1) :
    readAtMostFirst rows = result ↔ RowsRead Option.toList rows result := by
  have whole : rows.mapM readRow = (readAtMostFirst rows).map (Option.toList (α := α)) := by
    match rows, few with
    | [], _ => rfl
    | [row], _ =>
      rw [List.mapM_cons, List.mapM_nil, readAtMostFirst]
      cases (readRow row : Except StorageFault α) <;> rfl
  rw [← rowsRead_iff, whole]
  exact (Outcome.map_injective (Function.LeftInverse.injective fun _ => Option.head?_toList)).eq_iff.symm

end Reading

namespace RowPromise

variable {β : Type} {promise : RowPromise} {read : List Row → Except StorageFault β}
  {reads : List Row → Except StorageFault β → Prop} {rows : List Row}

/-- Rows are read after they are counted, and not at all when there are too few or too many. -/
theorem ends_iff {result : Except StorageFault β}
    (spec : (∀ fault, ¬ promise.Breaks rows.length fault) →
      ∀ result, read rows = result ↔ reads rows result) :
    (promise.check rows.length >>= fun _ => read rows) = result ↔ promise.Ends reads rows result := by
  cases checked : promise.check rows.length with
  | error fault =>
    have breaks := check_error_iff.mp checked
    constructor
    · intro same
      cases same
      exact .broken breaks
    · intro ends
      cases ends with
      | broken other =>
        rw [← checked, check_error_iff.mpr other]
        rfl
      | kept keeps _ => exact absurd breaks (keeps fault)
  | ok _ =>
    have keeps := check_ok_iff.mp checked
    constructor
    · intro same
      exact .kept keeps ((spec keeps result).mp same)
    · intro ends
      cases ends with
      | broken breaks => exact absurd breaks (keeps _)
      | kept _ reads => exact (spec keeps result).mpr reads

end RowPromise

namespace Statement

variable {ξ β : Type} [Executor ξ] {dialect : Dialect} {params : Params} {statement : Statement}
  {promise : RowPromise} {executor after : ξ} {bound : PositionalStatement} {fault : StorageFault}

theorem runFrom_fetch_of_unbound (unbinds : statement.bind dialect params = .error fault) :
    (statement.fetch dialect params promise).runFrom executor = (.error fault, executor) := by
  unfold fetch
  apply Action.runFrom_bind_of_error
  rw [Action.runFrom_ofExcept, unbinds]

theorem runFrom_fetch_of_failed (binds : statement.bind dialect params = .ok bound)
    (ran : (Executor.query bound).runFrom executor = (.error fault, after)) :
    (statement.fetch dialect params promise).runFrom executor = (.error fault, after) := by
  unfold fetch
  rw [Action.runFrom_bind_of_ok (by rw [Action.runFrom_ofExcept, binds])]
  exact Action.runFrom_bind_of_error ran

theorem runFrom_fetch_of_answered {rows : List Row}
    (binds : statement.bind dialect params = .ok bound)
    (ran : (Executor.query bound).runFrom executor = (.ok rows, after)) :
    (statement.fetch dialect params promise).runFrom executor =
      ((promise.check rows.length).map fun _ => rows, after) := by
  unfold fetch
  rw [Action.runFrom_bind_of_ok (by rw [Action.runFrom_ofExcept, binds]),
    Action.runFrom_bind_of_ok ran, Action.runFrom_bind, Action.runFrom_ofExcept]
  cases promise.check rows.length <;> rfl

theorem bind_of_bindText_ok (binds : bindText dialect params (statement.text dialect) = .ok bound) :
    statement.bind dialect params = .ok bound := by
  rw [bind, binds]
  rfl

theorem bind_of_bindText_error {fault : UnboundParameter}
    (unbinds : bindText dialect params (statement.text dialect) = .error fault) :
    statement.bind dialect params = .error (.unboundParameter fault.name) := by
  rw [bind, unbinds]
  rfl

variable (ξ dialect params statement)

/-- A step that fetches rows and then reads them makes the one call of fetching. -/
theorem runsOnce_of_fetch (promise : RowPromise) {read : List Row → Except StorageFault β}
    {reads : List Row → Except StorageFault β → Prop}
    (spec : ∀ rows, (∀ fault, ¬ promise.Breaks rows.length fault) →
      ∀ result, read rows = result ↔ reads rows result) :
    statement.RunsOnce dialect params .query (Executor.query (ξ := ξ)) (promise.Ends reads)
      (statement.fetch dialect params promise >>= fun rows => .ofExcept (read rows)) where
  unbound fault unbinds recorded :=
    Action.runFrom_bind_of_error (runFrom_fetch_of_unbound (bind_of_bindText_error unbinds))
  failed bound binds recorded fault after ran := by
    have called := Recorded.runFrom_query bound recorded
    rw [ran] at called
    exact Action.runFrom_bind_of_error
      (runFrom_fetch_of_failed (bind_of_bindText_ok binds) called)
  answered bound binds recorded rows after ran result later := by
    have called := Recorded.runFrom_query bound recorded
    rw [ran] at called
    rw [Action.runFrom_bind, runFrom_fetch_of_answered (bind_of_bindText_ok binds) called,
      ← RowPromise.ends_iff (spec rows)]
    have parts {found : Except StorageFault β × Recorded ξ} :
        found = (result, later) ↔ found.1 = result ∧ later = found.2 := by
      rw [eq_comm (a := later)]
      exact Prod.ext_iff
    cases promise.check rows.length with
    | error fault => exact parts
    | ok _ => exact parts

variable {ξ dialect params statement}

theorem fetchOne_eq_bind {α : Type} [RowShape α] :
    (statement.fetchOne dialect params : Action StorageFault ξ α) =
      statement.fetch dialect params .one >>= fun rows => .ofExcept (readFirst rows) := by
  unfold fetchOne
  congr
  funext rows
  cases rows <;> rfl

theorem fetchOneOrNone_eq_bind {α : Type} [RowShape α] :
    (statement.fetchOneOrNone dialect params : Action StorageFault ξ (Option α)) =
      statement.fetch dialect params .oneOrNone >>= fun rows => .ofExcept (readAtMostFirst rows) := by
  unfold fetchOneOrNone
  congr
  funext rows
  cases rows <;> rfl

/-- Fetching for one row gives exactly one. -/
theorem eq_singleton_of_fetch_one {rows : List Row}
    (ran : (statement.fetch dialect params .one).runFrom executor = (.ok rows, after)) :
    ∃ row, rows = [row] := by
  unfold fetch at ran
  obtain ⟨_, _, _, ran⟩ := Action.of_runFrom_bind_ok ran
  obtain ⟨found, _, _, ran⟩ := Action.of_runFrom_bind_ok ran
  obtain ⟨_, _, checked, last⟩ := Action.of_runFrom_bind_ok ran
  cases last
  have keeps := RowPromise.check_ok_iff.mp (congrArg Prod.fst checked)
  exact List.length_eq_one_iff.mp (not_not.mp fun other => keeps _ (.one other))

end Statement

/-- Every way of running a statement makes its one call. What is counted on is said first, so
that a promise is broken whatever the rows read as, and one row is there before it is read. -/
structure Statement.RunsEachOnce (ξ : Type) [Executor ξ] (α : Type) [RowShape α]
    (dialect : Dialect) (params : Params) (statement : Statement) : Prop where
  rows (promise : RowPromise) : statement.RunsOnce dialect params .query (Executor.query (ξ := ξ))
    (promise.Ends fun rows result => result = .ok rows) (statement.fetch dialect params promise)
  one : statement.RunsOnce dialect params .query (Executor.query (ξ := ξ))
    (RowPromise.one.Ends (RowsRead fun item : α => [item])) (statement.fetchOne dialect params)
  oneOrNone : statement.RunsOnce dialect params .query (Executor.query (ξ := ξ))
    (RowPromise.oneOrNone.Ends (RowsRead (Option.toList (α := α))))
    (statement.fetchOneOrNone dialect params)
  all (promise : RowPromise) : statement.RunsOnce dialect params .query
    (Executor.query (ξ := ξ)) (promise.Ends (RowsRead (id (α := List α))))
    (statement.fetchAll dialect params promise)
  page : statement.RunsOnce dialect params .query (Executor.query (ξ := ξ))
    (RowPromise.any.Ends fun rows result =>
      result = (Page.ofRows rows : Except RowFlaw (Page α)).mapError .rowShape)
    (statement.fetchPage dialect params)
  effect : statement.RunsOnce dialect params .execute (Executor.execute (ξ := ξ))
    (fun count result => result = .ok count) (statement.run dialect params)
  filled (executor after : Recorded ξ) (rows : List Row) :
    (statement.fetch dialect params .one).runFrom executor = (.ok rows, after) →
      ∃ row, rows = [row]

namespace Statement

variable (ξ : Type) [Executor ξ] (α : Type) [RowShape α] (dialect : Dialect) (params : Params)
  (statement : Statement)

/-- Reading the row of a statement that promises one. -/
theorem runsOnce_one : statement.RunsOnce dialect params .query (Executor.query (ξ := ξ))
    (RowPromise.one.Ends (RowsRead fun item : α => [item]))
    (statement.fetchOne dialect params) := by
  rw [fetchOne_eq_bind]
  exact runsOnce_of_fetch ξ dialect params statement .one fun _ keeps _ =>
    readFirst_iff (not_not.mp fun other => keeps _ (.one other))

theorem runsOnce_oneOrNone : statement.RunsOnce dialect params .query (Executor.query (ξ := ξ))
    (RowPromise.oneOrNone.Ends (RowsRead (Option.toList (α := α))))
    (statement.fetchOneOrNone dialect params) := by
  rw [fetchOneOrNone_eq_bind]
  exact runsOnce_of_fetch ξ dialect params statement .oneOrNone fun _ keeps _ =>
    readAtMostFirst_iff (Nat.not_lt.mp fun more => keeps _ (.oneOrNone more))

theorem runsOnce_run : statement.RunsOnce dialect params .execute (Executor.execute (ξ := ξ))
    (fun count result => result = .ok count) (statement.run dialect params) where
  unbound fault unbinds recorded := by
    unfold run
    apply Action.runFrom_bind_of_error
    rw [Action.runFrom_ofExcept, bind_of_bindText_error unbinds]
  failed bound binds recorded fault after ran := by
    have called := Recorded.runFrom_execute bound recorded
    rw [ran] at called
    unfold run
    rw [Action.runFrom_bind_of_ok (by rw [Action.runFrom_ofExcept, bind_of_bindText_ok binds])]
    exact called
  answered bound binds recorded count after ran result later := by
    have called := Recorded.runFrom_execute bound recorded
    rw [ran] at called
    unfold run
    rw [Action.runFrom_bind_of_ok (by rw [Action.runFrom_ofExcept, bind_of_bindText_ok binds]),
      called, Prod.mk.injEq, eq_comm, @eq_comm _ _ later]

/-- A statement is run by one call that carries its bound text, or by none when a parameter is
missing, and faults are passed on as they are. Otherwise the number of rows is held against the
promise before any of them is read, and rows are read in order up to the first that has a flaw. -/
theorem runsEachOnce : statement.RunsEachOnce ξ α dialect params where
  rows promise := by
    rw [← bind_pure (statement.fetch dialect params promise)]
    exact runsOnce_of_fetch ξ dialect params statement promise fun rows _ result =>
      (eq_comm : Except.ok rows = result ↔ _)
  one := runsOnce_one ξ α dialect params statement
  oneOrNone := runsOnce_oneOrNone ξ α dialect params statement
  all promise := runsOnce_of_fetch ξ dialect params statement promise fun rows _ result => by
    rw [← rowsRead_iff]
    cases result <;> rfl
  page := runsOnce_of_fetch ξ dialect params statement .any fun rows _ result => eq_comm
  effect := runsOnce_run ξ dialect params statement
  filled _ _ _ := eq_singleton_of_fetch_one

end Statement

def tagByKey : Statement :=
  .select { columns := ["id"], source := "tags", condition := some "key = $key" }

/-- An executor that will answer two rows, neither of them a tag. -/
def twoRows : Recorded AnswerQueue := ⟨{ queries := [.ok [⟨[("id", .text "7")]⟩, ⟨[]⟩]] }, []⟩

theorem Statement.runsEachOnce_twoRows :
    (tagByKey.fetchOne .sqlite ⟨[("key", .text "a")]⟩ :
      Action StorageFault (Recorded AnswerQueue) StoredTag).runFrom twoRows =
        (.error (.rowCount 2 1 (some 1)),
          ⟨{}, [.query ⟨"SELECT id FROM tags WHERE key = ?1", [.text "a"]⟩]⟩) ∧
    (tagByKey.fetchAll .sqlite .empty .any :
      Action StorageFault (Recorded AnswerQueue) (List StoredTag)).runFrom twoRows =
        (.error (.unboundParameter "key"), twoRows) := by
  have binds : bindText .sqlite ⟨[("key", .text "a")]⟩ (tagByKey.text .sqlite) =
      .ok ⟨"SELECT id FROM tags WHERE key = ?1", [.text "a"]⟩ := by
    decide +kernel
  have unbinds : bindText .sqlite .empty (tagByKey.text .sqlite) = .error ⟨"key"⟩ := by
    decide +kernel
  constructor
  · have runs := (runsEachOnce AnswerQueue StoredTag .sqlite ⟨[("key", .text "a")]⟩ tagByKey).one
    exact (runs.answered _ binds twoRows _ _ rfl _ _).mpr ⟨.broken (.one (by decide)), rfl⟩
  · have runs := (runsEachOnce AnswerQueue StoredTag .sqlite .empty tagByKey).all .any
    exact runs.unbound _ unbinds twoRows

end TagQuery
