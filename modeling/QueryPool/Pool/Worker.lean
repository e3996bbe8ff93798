import QueryPool.Pool.Basic

namespace QueryPool.Pool

def setWorker (p : Pool) (i : Nat) (w : Worker) : Pool := { p with workers := p.workers.set i w }

/-- A worker that stops lets its session and its statements go. -/
def stopWorker (p : Pool) (i : Nat) (w : Worker) : Pool :=
  p.setWorker i ⟨w.conn.shutDown, .stopped⟩

/-- Looks whether the queue has ended, and if not, begins to wait. -/
def look (p : Pool) (i : Nat) : Option Pool :=
  match p.workers[i]? with
  | some ⟨c, .ready⟩ =>
    some (if p.queue.cancelled then p.stopWorker i ⟨c, .ready⟩ else p.setWorker i ⟨c, .waiting⟩)
  | _ => none

/-- Receives the oldest job. -/
def receive (p : Pool) (i : Nat) : Option Pool :=
  match p.workers[i]?, p.queue.receive with
  | some ⟨c, .waiting⟩, (some j, queue) => some ({ p with queue }.setWorker i ⟨c, .holding j⟩)
  | _, _ => none

/-- Hears of the end while waiting. -/
def wake (p : Pool) (i : Nat) : Option Pool :=
  match p.workers[i]? with
  | some ⟨c, .waiting⟩ => if p.queue.cancelled then some (p.stopWorker i ⟨c, .waiting⟩) else none
  | _ => none

/-- A job received as the queue ended is dropped, not run. -/
def confirm (p : Pool) (i : Nat) : Option Pool :=
  match p.workers[i]? with
  | some ⟨c, .holding j⟩ =>
    some (if p.queue.cancelled then { p with board := j.drop p.board }.stopWorker i ⟨c, .ready⟩
      else p.setWorker i ⟨c, .working j⟩)
  | _ => none

/-- Runs the job and settles its slot; a commit that loses races has time for `retries` new tries. -/
def work (p : Pool) (i retries : Nat) : Option Pool :=
  match p.workers[i]? with
  | some ⟨c, .working j⟩ =>
    let (r, l) := j.task.run p.options.deadlockBudget retries ⟨c, p.server⟩
    some ({ p with server := l.server, board := j.settle r p.board }.setWorker i
      ⟨l.conn, .after r⟩)
  | _ => none

/-- Reports the error that the last job ended with. -/
def tell (p : Pool) (i : Nat) : Option Pool :=
  match p.workers[i]? with
  | some ⟨c, .failed e⟩ => some ({ p with fatals := p.fatals ++ [e] }.setWorker i ⟨c, .ready⟩)
  | _ => none

/-- A job in hand is run and reported. -/
def finish (p : Pool) (i retries : Nat) : Option Pool :=
  (p.work i retries).map fun p => (p.tell i).getD p

/-- One job from the queue to its end. -/
def serveOne (p : Pool) (i retries : Nat) : Option Pool := do
  let p ← p.look i
  let p ← p.receive i
  let p ← p.confirm i
  p.finish i retries

/-- Leads a worker to its stop after the end of the queue. -/
def windUp (p : Pool) (i retries : Nat) : Pool :=
  match p.workers[i]? with
  | some ⟨_, .ready⟩ => (p.look i).getD p
  | some ⟨_, .waiting⟩ => (p.wake i).getD p
  | some ⟨_, .holding _⟩ => (p.confirm i).getD p
  | some ⟨_, .working _⟩ => ((p.finish i retries).bind (·.look i)).getD p
  | some ⟨_, .failed _⟩ => ((p.tell i).bind (·.look i)).getD p
  | _ => p

/-- The first worker serves at most `n` jobs on a clock that lets every commit try again as often as
failures with an end can make it. -/
def serveUpTo : Nat → Pool → Pool
  | 0, p => p
  | n + 1, p =>
    if p.queue.items.isEmpty then p
    else match p.serveOne 0 p.server.firingsLeft with
      | some p => serveUpTo n p
      | none => p

/-- Serves what is queued. -/
def serve (p : Pool) : Pool := serveUpTo p.queueSize p

end QueryPool.Pool
