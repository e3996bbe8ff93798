import QueryPool.Options.Basic
import QueryPool.Server.Session
import QueryPool.Statement.Template

namespace QueryPool

structure Connection where
  login : Login
  side : Side
  registry : Registry
  policy : ReconnectPolicy
  session : Option Session := none
  /-- the prepared ids, each with its number of placeholders -/
  prepared : IdMap Nat := {}
  reconnecting : Bool := false
  /-- reconnects that ended with a usable session -/
  reconnects : Nat := 0
  /-- tries at a session that failed while reconnecting -/
  failedAttempts : Nat := 0

namespace Connection

def isOpen (c : Connection) : Bool := c.session.isSome

def isPrepared (c : Connection) (id : Nat) : Bool := c.prepared.contains id

/-- Lets the session go; the prepared ids stay known. -/
def close (c : Connection) : Connection := { c with session := none }

def shutDown (c : Connection) : Connection := { c.close with prepared := {} }

def sideName : Side → String
  | .async => "Async"
  | .sync => "Sync"

def diagnostic (c : Connection) : String :=
  "Connection \x7b info: " ++ c.login.diagnostic ++ ", kind: " ++ sideName c.side ++ ", open: " ++
    toString c.isOpen ++ ", prepared: " ++ toString c.prepared.size ++ ", reconnecting: " ++
    toString c.reconnecting ++ ", stats: ConnectionStats \x7b reconnects: " ++
    toString c.reconnects ++ ", failed_reconnect_attempts: " ++ toString c.failedAttempts ++
    " \x7d, .. \x7d"

end Connection

structure Link where
  conn : Connection
  server : Server

namespace Link

/-- What an operation on a connection gives, and the connection and the server after it. -/
abbrev Outcome (α : Type) := Except PoolError α × Link

def close (l : Link) : Link := { l with conn := l.conn.close }

/-- The server must count as many placeholders as the template does. -/
def prepareOne (t : Template) (l : Link) : Outcome Unit :=
  match l.conn.session with
  | none => (.error (.connection (.closed t.id l.conn.login.text)), l)
  | some ses =>
    match Session.prepare t.id t.sql ses l.server with
    | (.error e, ses, server) =>
      (.error (.database e), { conn := { l.conn with session := some ses }, server })
    | (.ok n, ses, server) =>
      let conn := { l.conn with session := some ses }
      if n = t.slots then
        (.ok (), { conn := { conn with prepared := conn.prepared.insert (t.id, n) }, server })
      else (.error (.config (.placeholderCount t.id t.slots n)), { conn, server })

def prepareAll : List Template → Link → Outcome Unit
  | [], l => (.ok (), l)
  | t :: ts, l =>
    match l.prepareOne t with
    | (.ok (), l) => prepareAll ts l
    | failed => failed

/-- Prepares what the registry has for this side, in the order of the ids. -/
def prepareStatements (l : Link) : Outcome Unit :=
  prepareAll (l.conn.registry.forSide l.conn.side) l

def prepareAgain : List Nat → Link → Outcome Unit
  | [], l => (.ok (), l)
  | id :: ids, l =>
    match l.conn.registry.get? id with
    | none => (.error (.unprepared id), l)
    | some t =>
      match l.prepareOne t with
      | (.ok (), l) => prepareAgain ids l
      | failed => failed

/-- A new session takes the place of the old one before the known statements are prepared on it. -/
def openSession (l : Link) : Outcome Unit :=
  match l.server.connect l.conn.login with
  | (.error e, server) => (.error (.database e), { l with server })
  | (.ok ses, server) =>
    prepareAgain l.conn.prepared.keys { conn := { l.conn with session := some ses }, server }

end Link
end QueryPool
