import QueryPool.Error
import QueryPool.Text.Search

namespace QueryPool.Sqlite

inductive Failure where
  /-- a constraint was broken; `duplicate` tells a unique or primary key from the others -/
  | constraint (duplicate : Bool) (message : String)
  /-- the database is busy or locked -/
  | busy (message : String)
  /-- the file cannot be opened, or is no database -/
  | unopened (message : String)
  | parameterCount (got needed : Nat)
  | other (message : String)
  /-- a failure that names its place in the statement -/
  | placed (message : String) (statement : String) (offset : Nat)
  deriving DecidableEq, Repr

namespace Failure

def message : Failure → String
  | constraint _ m | busy m | unopened m | other m => m
  | parameterCount g n => s!"Wrong number of parameters passed to query. Got {g}, needed {n}"
  | placed m sql n => s!"{m} in {sql} at offset {n}"

/-- Failures without a kind of their own are told apart by what their message says. -/
def codeOfMessage (m : String) : Nat :=
  if Text.occurs "no such table" m then Code.unknownTable
  else if Text.occurs "no such column" m || Text.occurs "has no column named" m then
    Code.unknownColumn
  else if Text.occurs "syntax error" m || Text.occurs "incomplete input" m then Code.parse
  else Code.unknown

def code : Failure → Nat
  | constraint true _ => Code.duplicateKey
  | constraint false _ => Code.unknown
  | busy _ => Code.deadlock
  | unopened _ => Code.unreachable
  | parameterCount .. => Code.valueCount
  | f => codeOfMessage f.message

def native (f : Failure) : NativeError := ⟨f.code, f.message⟩

end Failure
end QueryPool.Sqlite
