import QueryPool.Pool.Direct

namespace QueryPool.Pool

/-- A job that is refused is dropped, which breaks its slot. -/
def enqueue (j : Job) (p : Pool) : Pool :=
  match p.queue.push j with
  | (.queued, queue) => { p with queue }
  | (.refused j, queue) => { p with queue, board := j.drop p.board }

/-- Queues a task whose result is awaited; gives the index of its slot. -/
def submit (t : Task) (p : Pool) : Nat × Pool :=
  let (i, board) := p.board.add t.kind .pending
  (i, { p with board }.enqueue ⟨t, some i⟩)

/-- Queues a task whose result nobody awaits. -/
def submitUnawaited (t : Task) (p : Pool) : Pool := p.enqueue ⟨t, none⟩

/-- Adds the statement to a transaction if there is one, else queues it by itself. -/
def executeOrAppend (t : Option Transaction) (s : Statement) (p : Pool) :
    Option Transaction × Pool :=
  match t with
  | some t => (some (t.append (.bound s)), p)
  | none => (none, p.submitUnawaited (.executeBound s))

/-- Pings every direct connection and queues a ping for each worker. -/
def keepAlive (p : Pool) : Pool :=
  (List.range p.workers.length).foldl (fun p _ => p.submitUnawaited .ping)
    (pingDirect p.direct.length 0 p)

end QueryPool.Pool
