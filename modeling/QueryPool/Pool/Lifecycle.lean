import QueryPool.Pool.Worker

namespace QueryPool.Pool

def openConnection (p : Pool) (side : Side) : Except PoolError Connection × Pool :=
  match Link.openSession ⟨p.connection side, p.server⟩ with
  | (.ok (), l) => (.ok l.conn, { p with server := l.server })
  | (.error e, l) => (.error e, { p with server := l.server })

def addConnection (p : Pool) (side : Side) (c : Connection) : Pool :=
  match side with
  | .async => { p with spare := p.spare ++ [c] }
  | .sync => { p with direct := p.direct ++ [c] }

/-- Opens `n` connections, up to the first failure. -/
def openSide (side : Side) : Nat → Pool → Except PoolError Unit × Pool
  | 0, p => (.ok (), p)
  | n + 1, p =>
    match p.openConnection side with
    | (.ok c, p) => openSide side n (p.addConnection side c)
    | (.error e, p) => (.error e, p)

def openConnections (p : Pool) : Except PoolError Unit × Pool :=
  match openSide .async p.options.asyncThreads.toNat p with
  | (.ok (), p) => openSide .sync p.options.syncThreads.toNat p
  | failed => failed

def cancel (p : Pool) : Pool := { p with queue := p.queue.cancel }

def windUpAll (p : Pool) (retries : Nat) : Pool :=
  (List.range p.workers.length).foldl (fun p i => p.windUp i retries) p

/-- Drops what is still queued and lets every connection go. -/
def release (p : Pool) : Pool :=
  let (jobs, queue) := p.queue.drain
  { p with
    queue, board := jobs.foldl (fun b j => j.drop b) p.board, workers := [], spare := [],
    direct := [], stage := .shutDown }

/-- Closing again does nothing. -/
def close (p : Pool) : Pool :=
  if p.stage = .shutDown then p
  else (p.cancel.windUpAll p.server.firingsLeft).release

/-- Opens every connection of both sets. -/
def connect (p : Pool) : Except PoolError Unit × Pool :=
  match p.options.validate with
  | .error e => (.error e, p)
  | .ok () =>
    if p.stage ≠ .closed then (.error (.config (.alreadyOpened p.name)), p)
    else match p.openConnections with
      | (.ok (), p) => (.ok (), { p with stage := .opened })
      | (.error e, p) => (.error e, p.close)

/-- Prepares each connection in turn, up to the first failure. -/
def prepareEach : List Connection → Server → Except PoolError (List Connection) × Server
  | [], s => (.ok [], s)
  | c :: cs, s =>
    match Link.prepareStatements ⟨c, s⟩ with
    | (.error e, l) => (.error e, l.server)
    | (.ok (), l) =>
      match prepareEach cs l.server with
      | (.ok cs, s) => (.ok (l.conn :: cs), s)
      | failed => failed

/-- Prepares the spare connections and then the direct ones, and gives each spare one a worker. -/
def start (p : Pool) : Except PoolError Unit × Pool :=
  match prepareEach p.spare p.server with
  | (.error e, server) => (.error e, { p with server })
  | (.ok spare, server) =>
    match prepareEach p.direct server with
    | (.error e, server) => (.error e, { p with server })
    | (.ok direct, server) =>
      (.ok (), { p with server, direct, spare := [], workers := spare.map ({ conn := · }) })

def prepare (p : Pool) : Except PoolError Unit × Pool :=
  if p.stage ≠ .opened then (.error (.config (.notOpenForPreparing p.name)), p)
  else match p.start with
    | (.ok (), p) => (.ok (), { p with stage := .running })
    | (.error e, p) => (.error e, p.close)

end QueryPool.Pool
