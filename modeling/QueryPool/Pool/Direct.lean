import QueryPool.Pool.Basic

namespace QueryPool.Pool

open Link (Outcome)

/-- The index of the next direct connection. -/
def borrow (p : Pool) : Except PoolError Nat × Pool :=
  match p.stage with
  | .closed => (.error (.config (.notOpenForUse p.name)), p)
  | .shutDown => (.error .closed, p)
  | .opened | .running =>
    if p.direct.isEmpty then (.error .closed, p)
    else (.ok (p.turn % p.direct.length), { p with turn := p.turn + 1 })

/-- Makes a call on the `i`-th direct connection. -/
def callOn {α : Type} (f : Link → Outcome α) (i : Nat) (p : Pool) :
    Option (Except PoolError α × Pool) :=
  p.direct[i]?.map fun c =>
    let (r, l) := f ⟨c, p.server⟩
    (r, { p with server := l.server, direct := p.direct.set i l.conn })

/-- Makes a call on the next direct connection, unless there is none to borrow. What the call comes
to is not reported yet. -/
def lend {α : Type} (f : Link → Outcome α) (p : Pool) :
    Except PoolError (Except PoolError α) × Pool :=
  match p.borrow with
  | (.error e, p) => (.error e, p)
  | (.ok i, p) =>
    match p.callOn f i with
    | none => (.error .closed, p)
    | some (r, p) => (.ok r, p)

/-- Makes a call on the next direct connection and reports it if it ended fatally. -/
def onDirect {α : Type} (f : Link → Outcome α) (p : Pool) : Except PoolError α × Pool :=
  match p.lend f with
  | (.error e, p) => (.error e, p)
  | (.ok r, p) => (r, p.report r)

def execute (sql : String) (p : Pool) : Except PoolError Unit × Pool :=
  let (r, p) := p.onDirect (Link.execute sql)
  (r.map fun _ => (), p)

def executeBound (s : Statement) (p : Pool) : Except PoolError Unit × Pool :=
  let (r, p) := p.onDirect (Link.executeBound s)
  (r.map fun _ => (), p)

def query (sql : String) (p : Pool) : Except PoolError (Option Cursor) × Pool :=
  p.onDirect (Link.query sql)

def queryBound (s : Statement) (p : Pool) : Except PoolError (Option Cursor) × Pool :=
  p.onDirect (Link.queryBound s)

/-- The clock lets the commit begin `retries` new tries before its time is over. -/
def commit (t : Transaction) (retries : Nat) (p : Pool) : Except PoolError Unit × Pool :=
  p.onDirect fun l => (l.commit t (.of p.options.deadlockBudget retries)).1

/-- There is nothing to ask a session about the empty text. -/
def escape (s : String) (p : Pool) : Except PoolError String × Pool :=
  if s = "" then (.ok "", p)
  else match p.borrow with
    | (.error e, p) => (.error e, p)
    | (.ok i, p) =>
      match p.direct[i]? with
      | none => (.error .closed, p)
      | some c => (.ok (c.escape s), p)

def serverVersion? (p : Pool) : Option String := p.direct.head?.bind (·.serverVersion?)

def warnAboutSyncQueries (on : Bool) (p : Pool) : Pool := { p with warns := on }

/-- Pings the direct connections from the `i`-th on. -/
def pingDirect : Nat → Nat → Pool → Pool
  | 0, _, p => p
  | n + 1, i, p =>
    match p.callOn Link.ping i with
    | none => p
    | some (r, p) => pingDirect n (i + 1) (p.report r)

end QueryPool.Pool
