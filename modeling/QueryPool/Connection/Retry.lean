import QueryPool.Connection.Basic

namespace QueryPool

/-- What becomes of a call whose session was lost, once there is a new one. -/
inductive OnLoss where
  | retry
  /-- earlier statements of a transaction died with the session, so the caller must know -/
  | report
  deriving DecidableEq

/-- A failure to open a session, as a server would have reported it. -/
def PoolError.asNative : PoolError → NativeError
  | database e => e
  | other => ⟨Code.unknown, other.text⟩

namespace Link

/-- Tries to open a session; gives the last failure when all tries are used up. -/
def reopen : Nat → NativeError → Link → Option NativeError × Link
  | 0, last, l => (some last, l)
  | n + 1, _, l =>
    match l.openSession with
    | (.ok (), l) => (none, l)
    | (.error e, l) =>
      let conn := { l.conn.close with failedAttempts := l.conn.failedAttempts + 1 }
      reopen n e.asNative { l with conn }

def reconnect (cause : NativeError) (l : Link) : Outcome Unit :=
  let n := l.conn.policy.attempts
  match reopen n cause { l with conn := { l.conn.close with reconnecting := true } } with
  | (none, l) =>
    let conn := { l.conn with reconnecting := false, reconnects := l.conn.reconnects + 1 }
    (.ok (), { l with conn })
  | (some last, l) =>
    (.error (.fatal (.reconnectExhausted n last)),
      { l with conn := { l.conn with reconnecting := false } })

variable {α : Type}

/-- One submission of a call. Without a session it fails as if the server were gone. -/
def submit (call : Session.Call α) (l : Link) : Except NativeError α × Link :=
  match l.conn.session with
  | none => (.error ⟨Code.gone, "connection is closed"⟩, l)
  | some ses =>
    let (r, ses, server) := call ses l.server
    (r, { conn := { l.conn with session := some ses }, server })

/-- Submits a call until it is not lost; `left` reconnects may still be made for it. -/
def persist (onLoss : OnLoss) (call : Session.Call α) : Nat → Link → Outcome α
  | left, l =>
    match l.submit call with
    | (.ok a, l) => (.ok a, l)
    | (.error e, l) =>
      match e.kind with
      | .connectionLost =>
        match left with
        | 0 => (.error (.fatal (.retryLoop l.conn.policy.attempts e)), l)
        | left + 1 =>
          match l.reconnect e with
          | (.error f, l) => (.error f, l)
          | (.ok (), l) =>
            match onLoss with
            | .report => (.error (.database e), l)
            | .retry => persist onLoss call left l
      | .schema => (.error (.fatal (.schemaMismatch e)), l)
      | .deadlock | .data | .other => (.error (.database e), l)

def call (onLoss : OnLoss) (call : Session.Call α) (l : Link) : Outcome α :=
  l.persist onLoss call l.conn.policy.attempts

end Link
end QueryPool
