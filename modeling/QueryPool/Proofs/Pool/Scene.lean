import QueryPool.Proofs.Pool.Ledger
import QueryPool.Proofs.Pool.Steps

namespace QueryPool

/-- What may be called on a pool, with the first half of a close. -/
inductive PoolCall where
  | connect
  | prepare
  | submit (t : Task)
  | submitUnawaited (t : Task)
  | keepAlive
  | execute (sql : String)
  | executeBound (s : Statement)
  | query (sql : String)
  | queryBound (s : Statement)
  | commit (t : Transaction) (retries : Nat)
  | escape (text : String)
  | cancel

/-- What a call does at once on each connection that it uses. -/
def PoolCall.act (limit : Duration) : PoolCall → Link → Link
  | .connect, l => l.openSession.2
  | .prepare, l => l.prepareStatements.2
  | .execute sql, l => (l.execute sql).2
  | .executeBound s, l => (l.executeBound s).2
  | .query sql, l => (l.query sql).2
  | .queryBound s, l => (l.queryBound s).2
  | .commit t retries, l => (l.commit t (.of limit retries)).1.2
  | .submit _, l | .submitUnawaited _, l | .keepAlive, l | .escape _, l | .cancel, l => l

inductive WorkerStep where
  | look
  | receive
  | wake
  | confirm
  | work (retries : Nat)
  | tell

/-- What happens next. A close ends the queue and returns when every worker has stopped; its owner
makes no call meanwhile. -/
inductive Move where
  | call (c : PoolCall)
  /-- the next step of the `k`-th of those who are inside a call -/
  | resume (k : Nat)
  /-- a result is taken out of its slot, by whoever holds it -/
  | take (k : Kind) (i : Nat)
  | script (d : Direction)
  | worker (i : Nat) (w : WorkerStep)
  /-- the second half of a close -/
  | release

def Phase.isStopped : Phase → Bool
  | stopped => true
  | _ => false

def Phase.job? : Phase → Option Job
  | holding j | working j => some j
  | _ => none

namespace Pool

/-- The queue has ended and the workers are still to stop. -/
def closing (p : Pool) : Bool := p.queue.cancelled && p.stage ≠ .shutDown

/-- The jobs that workers have taken and not finished. -/
def held (p : Pool) : List Job := p.workers.filterMap (·.phase.job?)

def after (p : Pool) : PoolCall → Pool
  | .connect => p.connect.2
  | .prepare => p.prepare.2
  | .submit t => (p.submit t).2
  | .submitUnawaited t => p.submitUnawaited t
  | .keepAlive => p.join (.pinging 0)
  | .execute sql => p.enter (Link.execute sql)
  | .executeBound s => p.enter (Link.executeBound s)
  | .query sql => p.enter (Link.query sql)
  | .queryBound s => p.enter (Link.queryBound s)
  | .commit t retries => p.enter fun l => (l.commit t (.of p.options.deadlockBudget retries)).1
  | .escape text => (p.escape text).2
  | .cancel => if p.stage = .shutDown then p else p.cancel

def advance (p : Pool) (i : Nat) : WorkerStep → Option Pool
  | .look => p.look i
  | .receive => p.receive i
  | .wake => p.wake i
  | .confirm => p.confirm i
  | .work retries => p.work i retries
  | .tell => p.tell i

def move (p : Pool) : Move → Option Pool
  | .call c => if p.closing then none else some (p.after c)
  | .resume k => p.resume k
  | .take k i => some { p with board := (p.board.take k i).2 }
  | .script d => some { p with server := p.server.follow d }
  | .worker i w => p.advance i w
  | .release =>
    if p.closing && p.workers.all (·.phase.isStopped) then some p.release else none

theorem call_some {p p' : Pool} {c : PoolCall} (h : p.move (.call c) = some p') :
    p.closing = false ∧ p' = p.after c := by
  unfold move at h
  cases hc : p.closing with
  | true =>
    rw [hc] at h
    cases h
  | false =>
    rw [hc] at h
    cases h
    exact ⟨rfl, rfl⟩

theorem release_some {p p' : Pool} (h : p.move .release = some p') :
    p.queue.cancelled = true ∧ p.workers.all (·.phase.isStopped) = true ∧ p' = p.release := by
  simp only [move, closing, Option.ite_none_right_eq_some, Bool.and_eq_true] at h
  obtain ⟨⟨⟨ended, _⟩, stopped⟩, released⟩ := h
  exact ⟨ended, stopped, (Option.some.inj released).symm⟩

end Pool

namespace Log

def afterCall (g : Log) (p : Pool) (c : PoolCall) : Log :=
  let dealt := g.dealt (.caller (c.act p.options.deadlockBudget))
  match c with
  | .submit t => g.offered p.queue.cancelled [⟨t, some (p.submit t).1⟩]
  | .submitUnawaited t => g.offered p.queue.cancelled [⟨t, none⟩]
  | .keepAlive | .cancel => g
  | _ => dealt

def afterResume (g : Log) (p : Pool) (k : Nat) : Log :=
  match p.callers[k]? with
  | some (.pinging _) => g.dealt (.caller fun l => l.ping.2)
  | some (.leaving (_ + 1)) => g.offered p.queue.cancelled [⟨.ping, none⟩]
  | _ => g

def afterStep (g : Log) (p : Pool) (i : Nat) : WorkerStep → Log
  | .work retries =>
    match p.workers[i]? with
    | some ⟨c, .working j⟩ =>
      g.dealt (.worker ⟨j, (j.task.run p.options.deadlockBudget retries ⟨c, p.server⟩).1⟩)
    | _ => g
  | _ => g

/-- The log after a move that is possible in `p`. -/
def after (g : Log) (p : Pool) : Move → Log
  | .call c => g.afterCall p c
  | .resume k => g.afterResume p k
  | .take k i => g.took k i (p.board.take k i).1
  | .script d => g.dealt (.script d)
  | .worker i w => g.afterStep p i w
  | .release => g

end Log

/-- A pool with what happened to it so far. -/
structure Scene where
  pool : Pool
  log : Log := {}

namespace Scene

def step (s : Scene) (m : Move) : Option Scene :=
  (s.pool.move m).map fun pool => ⟨pool, s.log.after s.pool m⟩

def run (s : Scene) (ms : List Move) : Option Scene := ms.foldlM step s

theorem run_nil {s s' : Scene} (h : s.run [] = some s') : s' = s := (Option.some.inj h).symm

theorem run_cons {s s' : Scene} {m : Move} {ms : List Move} (h : s.run (m :: ms) = some s') :
    ∃ t, s.step m = some t ∧ t.run ms = some s' := by
  simpa [run, List.foldlM_cons, Option.bind_eq_some_iff] using h

theorem step_some {s s' : Scene} {m : Move} (h : s.step m = some s') :
    ∃ p, s.pool.move m = some p ∧ s' = ⟨p, s.log.after s.pool m⟩ := by
  obtain ⟨p, hp, hs⟩ := Option.map_eq_some_iff.1 h
  exact ⟨p, hp, hs.symm⟩

/-- What every move keeps, a run keeps. -/
theorem run_keeps {P : Scene → Prop} (moves : ∀ (s : Scene) (m : Move) (p : Pool), P s →
    s.pool.move m = some p → P ⟨p, s.log.after s.pool m⟩) {s s' : Scene} (h : P s)
    {ms : List Move} (hr : s.run ms = some s') : P s' := by
  induction ms generalizing s with
  | nil =>
    rw [run_nil hr]
    exact h
  | cons m ms ih =>
    obtain ⟨t, ht, hrest⟩ := run_cons hr
    obtain ⟨p, hp, rfl⟩ := step_some ht
    exact ih (moves s m p h hp) hrest

end Scene

/-- How the server came to be what it is, dealing by dealing. Callers do on connections what their
calls say, and a job that ran did what it does on a connection and on the server as it stood. -/
inductive Driven (limit : Duration) (start : Server) : List Dealing → Server → Prop where
  | start : Driven limit start [] start
  | caller {ds : List Dealing} {s s' : Server} (before : Driven limit start ds s)
      {act : Link → Link} (acts : Acts act s s') : Driven limit start (ds ++ [.caller act]) s'
  | script {ds : List Dealing} {s : Server} (before : Driven limit start ds s) (d : Direction) :
      Driven limit start (ds ++ [.script d]) (s.follow d)
  | worker {ds : List Dealing} {s : Server} (before : Driven limit start ds s) {j : Job}
      {c : Connection} {retries : Nat} {r : Except PoolError j.task.kind.Payload} {l : Link}
      (ran : j.task.run limit retries ⟨c, s⟩ = (r, l)) :
      Driven limit start (ds ++ [.worker ⟨j, r⟩]) l.server

end QueryPool
