import QueryPool.Board
import QueryPool.Connection.Transaction

namespace QueryPool

inductive Task where
  | execute (sql : String)
  | executeBound (s : Statement)
  | query (sql : String)
  | queryBound (s : Statement)
  | commit (t : Transaction)
  | batch (b : Batch)
  | ping

namespace Task

def kind : Task → Kind
  | execute _ | executeBound _ | commit _ | ping => .flag
  | query _ | queryBound _ => .rows
  | batch _ => .batch

/-- Success as a flag, unless the error is fatal. -/
def flagOf {α : Type} : Except PoolError α → Except PoolError Bool
  | .ok _ => .ok true
  | .error e => if e.isFatal then .error e else .ok false

/-- The rows, or none of them, unless the error is fatal. -/
def rowsOf : Except PoolError (Option Cursor) → Except PoolError (Option Cursor)
  | .ok rows => .ok rows
  | .error e => if e.isFatal then .error e else .ok none

/-- A transaction gets `limit` to lose races in, enough for `retries` new tries. -/
def run (limit : Duration) (retries : Nat) (l : Link) :
    (t : Task) → Except PoolError t.kind.Payload × Link
  | execute sql => let (r, l) := l.execute sql; (flagOf r, l)
  | executeBound s => let (r, l) := l.executeBound s; (flagOf r, l)
  | query sql => let (r, l) := l.query sql; (rowsOf r, l)
  | queryBound s => let (r, l) := l.queryBound s; (rowsOf r, l)
  | commit t => let ((r, l), _) := l.commit t (.of limit retries); (flagOf r, l)
  | batch b => let (r, b, l) := b.run l; (r.map fun () => b, l)
  | ping => let (r, l) := l.ping; (flagOf r, l)

theorem flagOf_error {α : Type} {r : Except PoolError α} {e : PoolError}
    (h : flagOf r = .error e) : e.isFatal = true := by
  unfold flagOf at h
  split at h
  · cases h
  · split at h
    · cases h
      assumption
    · cases h

theorem rowsOf_error {r : Except PoolError (Option Cursor)} {e : PoolError}
    (h : rowsOf r = .error e) : e.isFatal = true := by
  unfold rowsOf at h
  split at h
  · cases h
  · split at h
    · cases h
      assumption
    · cases h

/-- A task is left without a result by nothing but a fatal error. -/
theorem run_error {limit : Duration} {retries : Nat} {l : Link} {t : Task} {e : PoolError}
    (h : (t.run limit retries l).1 = .error e) : e.isFatal = true := by
  cases t with
  | execute | executeBound | commit | ping => exact flagOf_error h
  | query | queryBound => exact rowsOf_error h
  | batch b =>
    simp only [run, Batch.run] at h
    cases hr : (Batch.runQueries b.queries b.results l).1 with
    | error err =>
      rw [hr] at h
      cases h
      exact Batch.runQueries_error hr
    | ok u =>
      rw [hr] at h
      cases h

end Task

/-- A task with the slot, among those of its kind, that is to hold its result. -/
structure Job where
  task : Task
  slot : Option Nat

namespace Job

/-- Sets the result, or lets the slot break if there is none. -/
def settle (j : Job) (r : Except PoolError j.task.kind.Payload) (b : Board) : Board :=
  match j.slot, r with
  | none, _ => b
  | some i, .ok a => (b.set j.task.kind i a).2
  | some i, .error _ => b.abandon j.task.kind i

/-- Gives the task up before it has run. -/
def drop (j : Job) (b : Board) : Board :=
  match j.slot with
  | none => b
  | some i => b.abandon j.task.kind i

end Job
end QueryPool
