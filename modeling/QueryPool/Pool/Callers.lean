import QueryPool.Pool.Queued

namespace QueryPool.Pool

open Link (Outcome)

def join (p : Pool) (c : Caller) : Pool := { p with callers := p.callers ++ [c] }

/-- Makes a call on the next direct connection and leaves its report for later. A call that is
refused is over at once. -/
def enter {α : Type} (f : Link → Outcome α) (p : Pool) : Pool :=
  match p.lend f with
  | (.error _, p) => p
  | (.ok r, p) => p.join (.returning (r.map fun _ => ()))

def setCaller (p : Pool) (k : Nat) (c : Caller) : Pool := { p with callers := p.callers.set k c }

def dismiss (p : Pool) (k : Nat) : Pool := { p with callers := p.callers.eraseIdx k }

/-- The next step of the `k`-th caller. Between two steps of a caller others may take theirs. -/
def resume (p : Pool) (k : Nat) : Option Pool :=
  match p.callers[k]? with
  | some (.returning r) => some ((p.report r).dismiss k)
  | some (.pinging i) =>
    some (match p.callOn Link.ping i with
      | none => p.setCaller k (.leaving p.workers.length)
      | some (r, p) => p.setCaller k (.pinged i r))
  | some (.pinged i r) => some ((p.report r).setCaller k (.pinging (i + 1)))
  | some (.leaving (n + 1)) => some ((p.submitUnawaited .ping).setCaller k (.leaving n))
  | some (.leaving 0) => some (p.dismiss k)
  | none => none

end QueryPool.Pool
