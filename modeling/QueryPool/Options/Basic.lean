import QueryPool.Error

namespace QueryPool

/-- How many tries a lost session gets, and the wait that the first of them begins with. -/
structure ReconnectPolicy where
  attempts : Nat
  baseDelay : Duration
  deriving DecidableEq

/-- The wait before a try grows with its number; no try goes without. -/
def ReconnectPolicy.delayBefore (p : ReconnectPolicy) (attempt : Nat) : Duration :=
  p.baseDelay.times (max attempt 1)

/-- Sizes and limits of a pool. -/
structure Options where
  asyncThreads : UInt8 := 1
  syncThreads : UInt8 := 1
  reconnectAttempts : UInt32 := 5
  reconnectDelayMs : UInt64 := 3000
  deadlockBudgetMs : UInt64 := 60000
  warnAboutSyncQueries : Bool := false
  deriving DecidableEq

namespace Options

def withReconnectDelay (o : Options) (d : Duration) : Options :=
  { o with reconnectDelayMs := d.toMillis }

def withDeadlockBudget (o : Options) (d : Duration) : Options :=
  { o with deadlockBudgetMs := d.toMillis }

def reconnectPolicy (o : Options) : ReconnectPolicy :=
  ⟨o.reconnectAttempts.toNat, .ofMillis o.reconnectDelayMs⟩

def deadlockBudget (o : Options) : Duration := .ofMillis o.deadlockBudgetMs

/-- The names that files and command lines know the options by. -/
inductive Setting where
  | asyncThreads
  | syncThreads
  | reconnectAttempts
  | reconnectDelay
  | deadlockBudget
  | warnAboutSyncQueries
  deriving DecidableEq, Repr

namespace Setting

def all : List Setting :=
  [asyncThreads, syncThreads, reconnectAttempts, reconnectDelay, deadlockBudget,
    warnAboutSyncQueries]

def key : Setting → String
  | asyncThreads => "async_threads"
  | syncThreads => "synch_threads"
  | reconnectAttempts => "reconnect_attempts"
  | reconnectDelay => "reconnect_delay_ms"
  | deadlockBudget => "deadlock_retry_budget_ms"
  | warnAboutSyncQueries => "warn_about_sync_queries"

def ofKey? (k : String) : Option Setting := all.find? (·.key = k)

/-- The largest number a setting takes. -/
def limit : Setting → Nat
  | asyncThreads | syncThreads => UInt8.size - 1
  | reconnectAttempts => UInt32.size - 1
  | reconnectDelay | deadlockBudget => UInt64.size - 1
  | warnAboutSyncQueries => 1

end Setting

/-- A flag is on unless it is set to zero. -/
def set (o : Options) (s : Setting) (n : Nat) : Options :=
  match s with
  | .asyncThreads => { o with asyncThreads := .ofNat n }
  | .syncThreads => { o with syncThreads := .ofNat n }
  | .reconnectAttempts => { o with reconnectAttempts := .ofNat n }
  | .reconnectDelay => { o with reconnectDelayMs := .ofNat n }
  | .deadlockBudget => { o with deadlockBudgetMs := .ofNat n }
  | .warnAboutSyncQueries => { o with warnAboutSyncQueries := n ≠ 0 }

/-- No pool works without a worker, a direct connection or a try; the first lack is reported. -/
def validate (o : Options) : Except PoolError Unit :=
  if o.asyncThreads = 0 then .error (.config (.belowOne Setting.asyncThreads.key))
  else if o.syncThreads = 0 then .error (.config (.belowOne Setting.syncThreads.key))
  else if o.reconnectAttempts = 0 then .error (.config (.belowOne Setting.reconnectAttempts.key))
  else .ok ()

end Options
end QueryPool
