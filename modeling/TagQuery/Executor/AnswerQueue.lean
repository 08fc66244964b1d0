import TagQuery.Executor.Basic

/-!
An executor that gives prepared answers, one after another and whatever the statement.
-/

namespace TagQuery

structure AnswerQueue where
  queries : List (Except StorageFault (List Row)) := []
  writes : List (Except StorageFault UInt64) := []

namespace AnswerQueue

/-- Without a prepared answer a query has no rows and a write touches none. -/
instance : Executor AnswerQueue where
  query _ := .ofFunction fun queue =>
    match queue.queries with
    | [] => (.ok [], queue)
    | answer :: rest => (answer, { queue with queries := rest })
  execute _ := .ofFunction fun queue =>
    match queue.writes with
    | [] => (.ok 0, queue)
    | answer :: rest => (answer, { queue with writes := rest })

/-- Prepare more answers after those that wait. -/
def append (queue more : AnswerQueue) : AnswerQueue :=
  { queries := queue.queries ++ more.queries, writes := queue.writes ++ more.writes }

end AnswerQueue

end TagQuery
