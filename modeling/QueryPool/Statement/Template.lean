import QueryPool.Error
import QueryPool.Keyed
import QueryPool.Statement.Placeholder

namespace QueryPool

/-- Whose connection it is: a worker's, or one that callers borrow. -/
inductive Side where
  | async
  | sync
  deriving DecidableEq, Repr

/-- The connections that a template is prepared on. -/
inductive Audience where
  | async
  | sync
  | both
  deriving DecidableEq, Repr

def Audience.allows : Audience → Side → Bool
  | both, _ => true
  | async, .async => true
  | sync, .sync => true
  | _, _ => false

structure Template where
  id : Nat
  sql : String
  audience : Audience
  deriving DecidableEq, Repr

/-- How many values an execution needs. -/
def Template.slots (t : Template) : Nat := placeholders .code t.sql.toList

/-- Templates in the order of their ids. -/
abbrev Registry := Keyed Template Template.id

namespace Registry

/-- An id is given once. -/
def register (r : Registry) (t : Template) : Except PoolError Registry :=
  if r.contains t.id then .error (.config (.registeredTwice t.id)) else .ok (r.insert t)

def forSide (r : Registry) (side : Side) : List Template :=
  r.toList.filter (·.audience.allows side)

end Registry
end QueryPool
