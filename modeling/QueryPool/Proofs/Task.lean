import QueryPool.Proofs.Pool.Ledger

namespace QueryPool

/-- What is delivered of a call that failed: no success, or no rows. A batch delivers the failures
of its queries with its results and so fails fatally or not at all. -/
def Kind.failure : (k : Kind) → k.Payload
  | .flag => false
  | .rows => none
  | .batch => {}

/-- What is delivered of a call, unless it ended fatally. -/
def Kind.delivered (k : Kind) : Except PoolError k.Payload → Except PoolError k.Payload
  | .ok a => .ok a
  | .error e => if e.isFatal then .error e else .ok k.failure

namespace Task

/-- The call that a task stands for, made directly. The clock lets a commit begin `retries` new
tries within its limit, whoever makes it. -/
def direct (limit : Duration) (retries : Nat) (l : Link) :
    (t : Task) → Except PoolError t.kind.Payload × Link
  | execute sql => ((l.execute sql).1.map fun _ => true, (l.execute sql).2)
  | executeBound s => ((l.executeBound s).1.map fun _ => true, (l.executeBound s).2)
  | query sql => l.query sql
  | queryBound s => l.queryBound s
  | commit t =>
    let r := (l.commit t (.of limit retries)).1
    (r.1.map fun _ => true, r.2)
  | batch b => ((b.run l).1.map fun _ => (b.run l).2.1, (b.run l).2.2)
  | ping => (l.ping.1.map fun _ => true, l.ping.2)

theorem flagOf_eq {α : Type} (r : Except PoolError α) :
    flagOf r = Kind.flag.delivered (r.map fun _ => true) := by
  cases r <;> rfl

theorem rowsOf_eq (r : Except PoolError (Option Cursor)) : rowsOf r = Kind.rows.delivered r := by
  cases r <;> rfl

theorem batch_delivered (b : Batch) (l : Link) :
    ((b.run l).1.map fun _ => (b.run l).2.1) =
      Kind.batch.delivered ((b.run l).1.map fun _ => (b.run l).2.1) := by
  cases hr : (b.run l).1 with
  | ok u => rfl
  | error e =>
    have fatal : e.isFatal = true := Batch.runQueries_error hr
    exact (if_pos fatal).symm

/-- The two ways to run a task differ in nothing but what is delivered of a failure. -/
theorem run_eq_direct (t : Task) (limit : Duration) (retries : Nat) (l : Link) :
    t.run limit retries l =
      (t.kind.delivered (t.direct limit retries l).1, (t.direct limit retries l).2) := by
  cases t with
  | execute sql => exact congrArg (·, (l.execute sql).2) (flagOf_eq _)
  | executeBound s => exact congrArg (·, (l.executeBound s).2) (flagOf_eq _)
  | query sql => exact congrArg (·, (l.query sql).2) (rowsOf_eq _)
  | queryBound s => exact congrArg (·, (l.queryBound s).2) (rowsOf_eq _)
  | commit t => exact congrArg (·, (l.commit t (.of limit retries)).1.2) (flagOf_eq _)
  | batch b => exact congrArg (·, (b.run l).2.2) (batch_delivered b l)
  | ping => exact congrArg (·, l.ping.2) (flagOf_eq _)

end Task

namespace Job

theorem other_slots_settle (j : Job) (r : Except PoolError j.task.kind.Payload) (b : Board) {k : Kind}
    {i : Nat} (other : ¬(k = j.task.kind ∧ j.slot = some i)) :
    (j.settle r b).slot? k i = b.slot? k i := by
  unfold settle
  split
  · rfl
  · rename_i i' a hi
    refine Board.slot?_put_ne ?_ _
    rintro ⟨hk, rfl⟩
    exact other ⟨hk, hi⟩
  · rename_i i' e hi
    refine Board.slot?_put_ne ?_ _
    rintro ⟨hk, rfl⟩
    exact other ⟨hk, hi⟩

/-- A job leaves its connection and the server as the direct call does that it stands for. A call
that succeeds, or fails but not fatally, settles the slot of the job with what is delivered of it;
one that ends fatally returns its error and breaks the slot. No other slot is touched. -/
theorem runs_as_called (j : Job) (limit : Duration) (retries : Nat) (l : Link) (b : Board)
    (awaits : j.Awaits b) :
    let r := (j.task.run limit retries l).1
    let d := (j.task.direct limit retries l).1
    let shows (s : Slot j.task.kind.Payload) : Prop :=
      ∀ i, j.slot = some i → (j.settle r b).slot? j.task.kind i = some s
    (j.task.run limit retries l).2 = (j.task.direct limit retries l).2 ∧
    (∀ a, d = .ok a → r = .ok a ∧ shows (.ready a)) ∧
    (∀ e, d = .error e → e.isFatal = false →
      r = .ok j.task.kind.failure ∧ shows (.ready j.task.kind.failure)) ∧
    (∀ e, d = .error e → e.isFatal = true → r = .error e ∧ shows .broken) ∧
    (∀ e, r = .error e → e.isFatal = true ∧ d = .error e) ∧
    (∀ k i, ¬(k = j.task.kind ∧ j.slot = some i) → (j.settle r b).slot? k i = b.slot? k i) := by
  intro r d shows
  have hrun := j.task.run_eq_direct limit retries l
  have hr : r = j.task.kind.delivered d := congrArg Prod.fst hrun
  refine ⟨by rw [hrun], ?_, ?_, ?_, ?_, fun k i => other_slots_settle j r b⟩
  · intro a hd
    have hok : r = .ok a := by rw [hr, hd]; rfl
    exact ⟨hok, fun i hi => settle_ready awaits hi hok⟩
  · intro e hd nonfatal
    have hok : r = .ok j.task.kind.failure := by
      rw [hr, hd]
      simp [Kind.delivered, nonfatal]
    exact ⟨hok, fun i hi => settle_ready awaits hi hok⟩
  · intro e hd fatal
    have herror : r = .error e := by
      rw [hr, hd]
      simp [Kind.delivered, fatal]
    exact ⟨herror, fun i hi => settle_broken awaits hi herror⟩
  · intro e herror
    have fatal := Task.run_error herror
    refine ⟨fatal, ?_⟩
    rw [hr] at herror
    cases hd : d with
    | ok a =>
      rw [hd] at herror
      cases herror
    | error e' =>
      rw [hd, Kind.delivered] at herror
      split at herror
      · exact congrArg _ (Except.error.inj herror)
      · cases herror

/-- A closed connection with one try at a lost session, on a server that loses a race at the first
`guid = 1` and every session at `guid = 2`. -/
def contested : Link where
  conn := {
    login := ⟨"localhost", "3306", "trinity", "trinity", "world", false⟩
    side := .async
    registry := {}
    policy := ⟨1, .zero⟩ }
  server := { rules := [⟨"guid = 1", 1213, some 1⟩, ⟨"guid = 2", 2013, none⟩] }

def transfer : Job := ⟨.commit ⟨[.raw "UPDATE guid = 1", .raw "UPDATE guid = 2"], false⟩, some 1⟩

/-- Two slots that are awaited. -/
def twoAwaited : Board := Board.empty.update .flag fun _ => [.pending, .pending]

theorem runs_as_called_contested :
    let lost := PoolError.fatal (.retryLoop 1 ⟨2013, "injected failure for 'UPDATE guid = 2'"⟩)
    let r := (transfer.task.run .longest 3 contested).1
    transfer.Awaits twoAwaited ∧ (transfer.task.direct .longest 3 contested).1 = .error lost ∧
      r = .error lost ∧ (transfer.settle r twoAwaited).slot? .flag 1 = some .broken ∧
      (transfer.settle r twoAwaited).slot? .flag 0 = some .pending := by
  intro lost r
  have awaits : transfer.Awaits twoAwaited := by
    intro i hi
    cases hi
    rfl
  have ended : (match (transfer.task.direct .longest 3 contested).1 with
      | .ok _ => none
      | .error e => some e) = some lost := by decide +kernel
  have direct : (transfer.task.direct .longest 3 contested).1 = .error lost := by
    cases hd : (transfer.task.direct .longest 3 contested).1 with
    | ok a =>
      rw [hd] at ended
      cases ended
    | error e =>
      rw [hd] at ended
      exact congrArg _ (Option.some.inj ended)
  obtain ⟨-, -, -, broken, -, others⟩ :=
    transfer.runs_as_called .longest 3 contested twoAwaited awaits
  obtain ⟨same, slot⟩ := broken lost direct rfl
  have other : ¬(Kind.flag = transfer.task.kind ∧ transfer.slot = some 0) := by decide
  exact ⟨awaits, direct, same, slot 1 rfl, others .flag 0 other⟩

end Job
end QueryPool
