import QueryPool.Connection.Retry
import QueryPool.Statement.Bound

namespace QueryPool

def Connection.escape (c : Connection) (s : String) : String :=
  match c.session with
  | some _ => Session.escape s
  | none => String.ofList (Text.escapeOffline s.toList)

def Connection.serverVersion? (c : Connection) : Option String :=
  c.session.map fun _ => Server.version

namespace Link

def executeWith (onLoss : OnLoss) (sql : String) (l : Link) : Outcome Nat :=
  l.call onLoss (Session.execute sql)

/-- Gives the number of rows affected. -/
def execute (sql : String) (l : Link) : Outcome Nat := l.executeWith .retry sql

def ping (l : Link) : Outcome Unit := l.call .retry Session.ping

/-- A query without rows gives no cursor. -/
def cursor (r : Outcome Table) : Outcome (Option Cursor) := (r.1.map Cursor.ofTable?, r.2)

def query (sql : String) (l : Link) : Outcome (Option Cursor) :=
  cursor (l.call .retry (Session.query sql))

/-- Makes a call with the values of a statement, if it has all of them and is prepared here. -/
def withBound {α : Type} (onLoss : OnLoss) (s : Statement)
    (f : Nat → List Value → Session.Call α) (l : Link) : Outcome α :=
  match s.values with
  | .error e => (.error e, l)
  | .ok vs =>
    if l.conn.isPrepared s.id then l.call onLoss (f s.id vs) else (.error (.unprepared s.id), l)

def executeBoundWith (onLoss : OnLoss) (s : Statement) (l : Link) : Outcome Nat :=
  l.withBound onLoss s Session.executePrepared

def executeBound (s : Statement) (l : Link) : Outcome Nat := l.executeBoundWith .retry s

def queryBound (s : Statement) (l : Link) : Outcome (Option Cursor) :=
  cursor (l.withBound .retry s Session.queryPrepared)

end Link
end QueryPool
