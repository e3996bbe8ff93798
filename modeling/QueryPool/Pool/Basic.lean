import QueryPool.Task
import QueryPool.WorkQueue

namespace QueryPool

inductive Stage where
  | closed
  | opened
  | running
  | shutDown
  deriving DecidableEq, Repr

def Stage.text : Stage → String
  | closed => "Closed"
  | opened => "Opened"
  | running => "Running"
  | shutDown => "ShutDown"

/-- What a worker is doing. Between receiving a job and running it, a worker looks once more whether
the queue has ended. -/
inductive Phase where
  | ready
  | waiting
  | holding (j : Job)
  | working (j : Job)
  /-- its job ended fatally, which is still to be reported -/
  | failed (e : PoolError)
  | stopped

/-- How a worker goes on after a job with this result. -/
def Phase.after {α : Type} : Except PoolError α → Phase
  | .ok _ => ready
  | .error e => failed e

structure Worker where
  conn : Connection
  phase : Phase := .ready

/-- Where somebody stands who is inside a call on direct connections. -/
inductive Caller where
  /-- the call has ended so and is still to be reported -/
  | returning (r : Except PoolError Unit)
  /-- the `i`-th connection is to be pinged next -/
  | pinging (i : Nat)
  /-- its ping has ended so and is still to be reported -/
  | pinged (i : Nat) (r : Except PoolError Unit)
  /-- so many workers are still to get a ping -/
  | leaving (n : Nat)

structure Pool where
  name : String
  login : Login
  options : Options := {}
  registry : Registry := {}
  server : Server := {}
  stage : Stage := .closed
  queue : WorkQueue Job := {}
  /-- opened connections that have no worker yet -/
  spare : List Connection := []
  workers : List Worker := []
  direct : List Connection := []
  callers : List Caller := []
  /-- how often a direct connection has been borrowed -/
  turn : Nat := 0
  warns : Bool := false
  board : Board := .empty
  /-- the fatal errors in the order they were reported -/
  fatals : List PoolError := []

namespace Pool

def isRunning (p : Pool) : Bool := p.stage = .running

def queueSize (p : Pool) : Nat := p.queue.size

/-- An unbound statement of a registered template. -/
def statement (p : Pool) (id : Nat) : Except PoolError Statement :=
  match p.registry.get? id with
  | some t => .ok (.ofTemplate t)
  | none => .error (.config (.unregistered id))

def connection (p : Pool) (side : Side) : Connection :=
  { login := p.login, side, registry := p.registry, policy := p.options.reconnectPolicy }

/-- Puts a fatal error on record. -/
def report {α : Type} (p : Pool) : Except PoolError α → Pool
  | .ok _ => p
  | .error e => if e.isFatal then { p with fatals := p.fatals ++ [e] } else p

def diagnostic (p : Pool) : String :=
  "DatabaseWorkerPool \x7b name: " ++ Text.quoted p.name ++ ", info: " ++ p.login.diagnostic ++
    ", state: " ++ p.stage.text ++ ", workers: " ++ toString p.workers.length ++
    ", sync_connections: " ++ toString p.direct.length ++ ", queued: " ++ toString p.queueSize ++
    ", .. \x7d"

end Pool
end QueryPool
