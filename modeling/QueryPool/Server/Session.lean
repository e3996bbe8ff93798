import QueryPool.Rows
import QueryPool.Server.Basic
import QueryPool.Text.Escape
import QueryPool.Value.Diagnostic

namespace QueryPool

structure Session where
  id : Nat
  /-- the text of each prepared statement -/
  prepared : IdMap String := {}
  /-- the statements of the open transaction -/
  pending : Option (List String) := none

def Server.connect (s : Server) (login : Login) : Except NativeError Session × Server :=
  let s := { s with connects := s.connects + 1 }
  match s.refusals with
  | 0 =>
    let s := { s with sessions := s.sessions + 1 }
    (.ok { id := s.sessions }, s)
  | n + 1 =>
    (.error ⟨Code.unreachable, s!"can't connect to server on '{login.host}'"⟩,
      { s with refusals := n })

namespace Session

/-- A call on a session: its result, and the session and the server after it. -/
abbrev Call (α : Type) := Session → Server → Except NativeError α × Session × Server

def inTransaction (s : Session) : Bool := s.pending.isSome

/-- Runs one statement. Outside a transaction its effect is visible at once. -/
def run (text : String) : Call Unit := fun ses srv =>
  match srv.check text with
  | (.error e, srv) => (.error e, ses, srv)
  | (.ok (), srv) =>
    let srv := { srv with executed := srv.executed ++ [text] }
    match ses.pending with
    | none => (.ok (), ses, { srv with committed := srv.committed ++ [text] })
    | some p => (.ok (), { ses with pending := some (p ++ [text]) }, srv)

/-- Every statement affects one row. -/
def execute (sql : String) : Call Nat := fun ses srv =>
  match run sql ses srv with
  | (.ok (), ses, srv) => (.ok 1, ses, srv)
  | (.error e, ses, srv) => (.error e, ses, srv)

/-- The one row of a query, in columns that are numbered, unless the script hides it. -/
def answer (srv : Server) (text : String) (row : Row) : Table :=
  if srv.findsNothing text then ⟨["echo"], []⟩
  else ⟨row.zipIdx.map fun (_, i) => s!"c{i}", [row]⟩

def ask (text : String) (row : Row) : Call Table := fun ses srv =>
  match run text ses srv with
  | (.ok (), ses, srv) => (.ok (answer srv text row), ses, srv)
  | (.error e, ses, srv) => (.error e, ses, srv)

/-- A query gives its own text back. -/
def query (sql : String) : Call Table := ask sql [.text sql]

/-- The server counts every question mark. -/
def countMarks (sql : String) : Nat := sql.toList.count '?'

/-- Gives the number of placeholders that the server counts. -/
def prepare (id : Nat) (sql : String) : Call Nat := fun ses srv =>
  match srv.check s!"PREPARE {sql}" with
  | (.error e, srv) => (.error e, ses, srv)
  | (.ok (), srv) =>
    (.ok ((srv.counts.get? id).elim (countMarks sql) (·.2)),
      { ses with prepared := ses.prepared.insert (id, sql) }, srv)

/-- A prepared statement with its values, as it is logged. -/
def boundText (sql : String) (values : List Value) : String :=
  s!"{sql} {bracketed (values.map Value.diagnostic)}"

def bound (ses : Session) (id : Nat) (values : List Value) : Except NativeError String :=
  match ses.prepared.get? id with
  | none => .error ⟨Code.unknown, s!"statement {id} not prepared on session {ses.id}"⟩
  | some (_, sql) =>
    let n := countMarks sql
    if values.length = n then .ok (boundText sql values)
    else .error ⟨Code.valueCount, s!"statement {id} takes {n} values, got {values.length}"⟩

def executePrepared (id : Nat) (values : List Value) : Call Nat := fun ses srv =>
  match ses.bound id values with
  | .ok text => execute text ses srv
  | .error e => (.error e, ses, srv)

/-- A query gives its values back, or its text if it has none. -/
def queryPrepared (id : Nat) (values : List Value) : Call Table := fun ses srv =>
  match ses.bound id values with
  | .ok text => ask text (if values.isEmpty then [.text text] else values) ses srv
  | .error e => (.error e, ses, srv)

def escape (s : String) : String := String.ofList (Text.escapeOnline s.toList)

def ping : Call Unit := fun ses srv =>
  match srv.check "PING" with
  | (.ok (), srv) => (.ok (), ses, { srv with pings := srv.pings + 1 })
  | (.error e, srv) => (.error e, ses, srv)

/-- A transaction that is open already is forgotten. -/
def begin : Call Unit := fun ses srv =>
  match srv.check "START TRANSACTION" with
  | (.ok (), srv) => (.ok (), { ses with pending := some [] }, srv)
  | (.error e, srv) => (.error e, ses, srv)

def commit : Call Unit := fun ses srv =>
  match srv.check "COMMIT" with
  | (.error e, srv) => (.error e, ses, srv)
  | (.ok (), srv) =>
    match ses.pending with
    | none => (.ok (), ses, srv)
    | some p =>
      (.ok (), { ses with pending := none },
        { srv with committed := srv.committed ++ p, commits := srv.commits + 1 })

/-- A rollback never fails. -/
def rollback : Call Unit := fun ses srv =>
  match ses.pending with
  | none => (.ok (), ses, srv)
  | some _ => (.ok (), { ses with pending := none }, { srv with rollbacks := srv.rollbacks + 1 })

end Session
end QueryPool
