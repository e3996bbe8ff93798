import QueryPool.Duration

namespace QueryPool

/-- The reaction that a server's error number asks for. -/
inductive ErrorClass where
  /-- the session is gone: reconnect and try again -/
  | connectionLost
  /-- the transaction lost a race: run it again -/
  | deadlock
  /-- the values are at fault: tell the caller -/
  | data
  /-- the statement does not fit the schema: nothing will mend it -/
  | schema
  | other
  deriving DecidableEq, Repr

namespace Code

def unknownColumn : Nat := 1054
def duplicateKey : Nat := 1062
def parse : Nat := 1064
def unknown : Nat := 1105
def valueCount : Nat := 1136
def unknownTable : Nat := 1146
def deadlock : Nat := 1213
def outOfRange : Nat := 1264
def unreachable : Nat := 2003
def gone : Nat := 2006
def lost : Nat := 2013
def lostExtended : Nat := 2055

end Code

def ErrorClass.ofCode (code : Nat) : ErrorClass :=
  if code ∈ [Code.gone, Code.lost, Code.lostExtended, Code.unreachable] then .connectionLost
  else if code = Code.deadlock then .deadlock
  else if code ∈ [Code.duplicateKey, Code.valueCount, Code.outOfRange] then .data
  else if code ∈ [Code.unknownColumn, Code.unknownTable, Code.parse] then .schema
  else .other

/-- What a server reports: a number and its own words. -/
structure NativeError where
  code : Nat
  message : String
  deriving DecidableEq, Repr

def NativeError.kind (e : NativeError) : ErrorClass := .ofCode e.code

def NativeError.text (e : NativeError) : String := "[" ++ toString e.code ++ "] " ++ e.message

inductive ConfigProblem where
  | fieldCount (got : Nat)
  | unknownFlag (flag : String)
  | invalidPort (port host : String)
  | belowOne (setting : String)
  | registeredTwice (id : Nat)
  | placeholderCount (id declared counted : Nat)
  | alreadyOpened (pool : String)
  | notOpenForPreparing (pool : String)
  | notOpenForUse (pool : String)
  | unregistered (id : Nat)
  | stated (text : String)
  deriving DecidableEq, Repr

def ConfigProblem.text : ConfigProblem → String
  | fieldCount n => s!"connection string needs 5 or 6 ';'-separated fields, got {n}"
  | unknownFlag f => s!"unknown connection flag '{f}', expected 'ssl'"
  | invalidPort p h => s!"invalid port '{p}' for host '{h}'"
  | belowOne s => s!"{s} must be at least 1"
  | registeredTwice id => s!"statement id {id} registered twice"
  | placeholderCount id d c => s!"statement {id} declares {d} parameters, server counts {c}"
  | alreadyOpened p => s!"database pool '{p}' was already opened"
  | notOpenForPreparing p => s!"database pool '{p}' must be opened before preparing statements"
  | notOpenForUse p => s!"database pool '{p}' must be opened before synchronous use"
  | unregistered id => s!"no statement registered under id {id}"
  | stated t => t

inductive ConnectionProblem where
  /-- a statement was to be prepared without a session; `login` is shown without its password -/
  | closed (id : Nat) (login : String)
  | stated (text : String)
  deriving DecidableEq, Repr

def ConnectionProblem.text : ConnectionProblem → String
  | closed id l => s!"cannot prepare statement {id} on closed connection {l}"
  | stated t => t

inductive BindingProblem where
  | pastEnd (id slots index : Nat)
  | unbound (id index slots : Nat)
  | stated (text : String)
  deriving DecidableEq, Repr

def BindingProblem.text : BindingProblem → String
  | pastEnd id n i => s!"statement {id} takes {n} parameters, value bound at index {i}"
  | unbound id i n => s!"statement {id} parameter {i} of {n} is not bound"
  | stated t => t

/-- Why nothing but a shutdown is left. -/
inductive FatalReason where
  | reconnectExhausted (attempts : Nat) (last : NativeError)
  | schemaMismatch (e : NativeError)
  | retryLoop (retries : Nat) (last : NativeError)
  deriving DecidableEq, Repr

namespace FatalReason

def native : FatalReason → NativeError
  | reconnectExhausted _ e => e
  | schemaMismatch e => e
  | retryLoop _ e => e

def text : FatalReason → String
  | reconnectExhausted n e => s!"failed to reconnect after {n} attempts, last error {e.text}"
  | schemaMismatch e => s!"database structure is not up to date: {e.text}"
  | retryLoop n e => s!"connection dropped again after {n} reconnects: {e.text}"

end FatalReason

inductive PoolError where
  | config (p : ConfigProblem)
  | connection (p : ConnectionProblem)
  | binding (p : BindingProblem)
  | unprepared (id : Nat)
  | database (e : NativeError)
  /-- the transaction was still losing races when its time was over -/
  | deadlocked (budget : Duration)
  | fatal (r : FatalReason)
  | closed
  deriving DecidableEq

namespace PoolError

def text : PoolError → String
  | config p => s!"Configuration error: {p.text}"
  | connection p => s!"Connection error: {p.text}"
  | binding p => s!"Parameter binding error: {p.text}"
  | unprepared id => s!"Statement {id} is not prepared on this connection"
  | database e => s!"Database error {e.text}"
  | deadlocked d => s!"Transaction abandoned after retrying deadlocks for {d.text}"
  | fatal r => s!"Fatal database error: {r.text}"
  | closed => "Worker pool is closed"

def isFatal : PoolError → Bool
  | fatal _ => true
  | _ => false

/-- The server's own error inside, if there is one. -/
def native? : PoolError → Option NativeError
  | database e => some e
  | fatal r => some r.native
  | _ => none

def code? (e : PoolError) : Option Nat := e.native?.map (·.code)

def kind? (e : PoolError) : Option ErrorClass := e.native?.map (·.kind)

def isDeadlock : PoolError → Bool
  | database e => e.kind = .deadlock
  | _ => false

end PoolError
end QueryPool
