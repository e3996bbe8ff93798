import QueryPool.Keyed
import QueryPool.Sqlite.Cell
import QueryPool.Sqlite.Failure

namespace QueryPool.Sqlite

/-- The database behind a session, asked for nothing but the placeholders of a statement, as by
`SELECT ?, ?, …`. -/
structure Engine where
  /-- why a statement of so many placeholders is not taken, if it is not -/
  refusal? : Nat → Option Failure
  /-- what a query gives back of a bound cell -/
  echo : Cell → Cell

/-- The placeholders of each prepared statement. -/
structure Session where
  prepared : IdMap Nat := {}

namespace Session

/-- Gives the number of placeholders. -/
def prepare (engine : Engine) (s : Session) (id marks : Nat) : Except NativeError Nat × Session :=
  match engine.refusal? marks with
  | some failure => (.error failure.native, s)
  | none => (.ok marks, { prepared := s.prepared.insert (id, marks) })

/-- Looks for the statement, then at every value, then at their number. -/
def queryPrepared (engine : Engine) (s : Session) (id : Nat) (vs : List Value) :
    Except NativeError (List Row) :=
  match s.prepared.get? id with
  | none => .error ⟨Code.unknown, s!"statement {id} was never prepared on this session"⟩
  | some (_, marks) =>
    match Cell.ofValues vs with
    | .error e => .error e
    | .ok cells =>
      if cells.length = marks then .ok [cells.map fun c => (engine.echo c).toValue]
      else .error (Failure.parameterCount cells.length marks).native

end Session
end QueryPool.Sqlite
