import QueryPool.Connection.Calls

namespace QueryPool

inductive Element where
  | raw (sql : String)
  | bound (s : Statement)

structure Transaction where
  elements : List Element := []
  /-- committed or given up -/
  cleaned : Bool := false

namespace Transaction

def append (t : Transaction) (e : Element) : Transaction := { t with elements := t.elements ++ [e] }

/-- Drops the elements, once. -/
def cleanUp (t : Transaction) : Transaction :=
  if t.cleaned then t else { elements := [], cleaned := true }

end Transaction

/-- The time that a transaction may spend on losing races, and how many new tries begin within it
as the clock runs. -/
structure Budget where
  limit : Duration
  retries : Nat
  none_at_zero : limit = .zero → retries = 0

def Budget.of (limit : Duration) (retries : Nat) : Budget :=
  ⟨limit, if limit = .zero then 0 else retries, fun h => if_pos h⟩

namespace Link

def runElement (e : Element) (l : Link) : Outcome Nat :=
  match e with
  | .raw sql => l.executeWith .report sql
  | .bound s => l.executeBoundWith .report s

/-- Stops at the first element that fails. -/
def runElements : List Element → Link → Outcome Unit
  | [], l => (.ok (), l)
  | e :: es, l =>
    match l.runElement e with
    | (.ok _, l) => runElements es l
    | (.error err, l) => (.error err, l)

def rollback (l : Link) : Link := (l.submit Session.rollback).2

/-- After a lost session there is nothing left to roll back. -/
def rollbackAfter (e : PoolError) (l : Link) : Link :=
  if e.kind? = some .connectionLost then l else l.rollback

def commitOpen (l : Link) : Outcome Unit :=
  match l.call .report Session.commit with
  | (.ok (), l) => (.ok (), l)
  | (.error e, l) => (.error e, l.rollbackAfter e)

def runTransaction (t : Transaction) (l : Link) : Outcome Unit :=
  if t.elements.isEmpty then (.ok (), l)
  else match l.call .retry Session.begin with
    | (.error e, l) => (.error e, l)
    | (.ok (), l) =>
      match l.runElements t.elements with
      | (.error e, l) => (.error e, l.rollbackAfter e)
      | (.ok (), l) => l.commitOpen

/-- Starts over on a new session at most `left` times. -/
def restarting (t : Transaction) : Nat → Link → Outcome Unit
  | left, l =>
    match l.runTransaction t with
    | (.error (.database e), l) =>
      if e.kind = .connectionLost then
        match left with
        | 0 => (.error (.fatal (.retryLoop l.conn.policy.attempts e)), l)
        | left + 1 => restarting t left l
      else (.error (.database e), l)
    | other => other

/-- One try at a transaction, over as many sessions as it takes. -/
def attempt (t : Transaction) (l : Link) : Outcome Unit :=
  l.restarting t l.conn.policy.attempts

/-- Tries again after every lost race. -/
def retryDeadlocks (t : Transaction) (limit : Duration) : Nat → Link → Outcome Unit
  | 0, l => (.error (.deadlocked limit), l)
  | n + 1, l =>
    match l.attempt t with
    | (.error e, l) => if e.isDeadlock then retryDeadlocks t limit n l else (.error e, l)
    | other => other

/-- Whatever comes of it, the transaction is used up. -/
def commit (t : Transaction) (b : Budget) (l : Link) : Outcome Unit × Transaction :=
  (match l.attempt t with
    | (.error e, l) => if e.isDeadlock then l.retryDeadlocks t b.limit b.retries else (.error e, l)
    | other => other,
    t.cleanUp)

end Link
end QueryPool
