import QueryPool.Proofs.Connection.Frame

namespace QueryPool

/-- What callers ask of a connection. -/
inductive Request where
  | openSession
  | close
  | prepareStatements
  | ping
  | execute (sql : String)
  | query (sql : String)
  | executeBound (s : Statement)
  | queryBound (s : Statement)
  /-- one run, neither started over nor tried again -/
  | transaction (t : Transaction)
  | commit (t : Transaction) (b : Budget)

/-- A change to what the server is to do. -/
inductive Direction where
  | refuseConnects (n : Nat)
  | addRule (r : Rule)
  | findNothingFor (pattern : String)
  | reportCount (id count : Nat)

def Server.follow (s : Server) : Direction → Server
  | .refuseConnects n => s.refuseConnects n
  | .addRule r => s.addRule r
  | .findNothingFor pattern => s.findNothingFor pattern
  | .reportCount id count => s.reportCount id count

inductive Step where
  | request (q : Request)
  | direction (d : Direction)

namespace Link

variable {α : Type}

/-- Whether a call went well, apart from what it gave. -/
def success (r : Outcome α) : Outcome Unit := (r.1.map fun _ => (), r.2)

def perform (l : Link) : Request → Outcome Unit
  | .openSession => l.openSession
  | .close => (.ok (), l.close)
  | .prepareStatements => l.prepareStatements
  | .ping => l.ping
  | .execute sql => success (l.execute sql)
  | .query sql => success (l.query sql)
  | .executeBound s => success (l.executeBound s)
  | .queryBound s => success (l.queryBound s)
  | .transaction t => l.runTransaction t
  | .commit t b => (l.commit t b).1

def step (l : Link) : Step → Link
  | .request q => (l.perform q).2
  | .direction d => { l with server := l.server.follow d }

def run (l : Link) (steps : List Step) : Link := steps.foldl step l

end Link
end QueryPool
