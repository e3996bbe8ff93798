import Mathlib.Data.List.Perm.Basic
import QueryPool.Proofs.Pool.Staffing

namespace QueryPool

/-- Something that came to its end and may have ended fatally. -/
inductive Completion where
  /-- a direct call -/
  | returned (r : Except PoolError Unit)
  /-- a ping that keeps a direct connection alive -/
  | pinged (r : Except PoolError Unit)
  /-- a job on a worker -/
  | served (r : Except PoolError Unit)

namespace Completion

def fatal? : Completion → Option PoolError
  | returned r | pinged r | served r => fatalOf r

def served? : Completion → Option (Except PoolError Unit)
  | returned _ | pinged _ => none
  | served r => some r

end Completion

@[simp] theorem fatalOf_map {α β : Type} (r : Except PoolError α) (f : α → β) :
    fatalOf (r.map f) = fatalOf r := by
  cases r <;> rfl

theorem map_unit {ε : Type} (r : Except ε Unit) : (r.map fun _ => ()) = r := by
  cases r <;> rfl

theorem fatalOf_of_isFatal {α : Type} {e : PoolError} (fatal : e.isFatal = true) :
    fatalOf (.error e : Except PoolError α) = some e := by
  simp [fatalOf, fatal]

theorem fatalOf_error {α : Type} {e : PoolError} (nonfatal : e.isFatal = false) :
    fatalOf (.error e : Except PoolError α) = none := by
  simp [fatalOf, nonfatal]

/-- What the calls that a task makes on its connection come to, fatal or not. -/
def Task.outcome (limit : Duration) (retries : Nat) (l : Link) : Task → Except PoolError Unit
  | execute sql => (l.execute sql).1.map fun _ => ()
  | executeBound s => (l.executeBound s).1.map fun _ => ()
  | query sql => (l.query sql).1.map fun _ => ()
  | queryBound s => (l.queryBound s).1.map fun _ => ()
  | commit t => (l.commit t (.of limit retries)).1.1
  | batch b => (b.run l).1
  | ping => l.ping.1

/-- What a job that ran came to, apart from what it left in its slot. -/
def Ran.outcome (x : Ran) : Except PoolError Unit := x.result.map fun _ => ()

/-- What has ended and is still to be reported. -/
def Caller.pending? : Caller → Option Completion
  | returning r => some (.returned r)
  | pinged _ r => some (.pinged r)
  | pinging _ | leaving _ => none

def Phase.pending? : Phase → Option Completion
  | failed e => some (.served (.error e))
  | ready | waiting | holding _ | working _ | stopped => none

section Lists

open scoped List

variable {β γ : Type} {l : List β} {k : Nat} {b : β}

theorem filterMap_cons_toList (f : β → Option γ) (b : β) (l : List β) :
    (b :: l).filterMap f = (f b).toList ++ l.filterMap f := by
  cases h : f b <;> simp [h]

theorem filterMap_eraseIdx_perm (f : β → Option γ) (h : l[k]? = some b) :
    ((f b).toList ++ (l.eraseIdx k).filterMap f).Perm (l.filterMap f) := by
  obtain ⟨hk, rfl⟩ := List.getElem?_eq_some_iff.1 h
  rw [← filterMap_cons_toList]
  exact (List.getElem_cons_eraseIdx_perm hk).filterMap f

theorem filterMap_set_perm (f : β → Option γ) (h : l[k]? = some b) (b' : β) :
    ((f b).toList ++ (l.set k b').filterMap f).Perm ((f b').toList ++ l.filterMap f) := by
  have hk := (List.getElem?_eq_some_iff.1 h).1
  have changed := (List.set_perm_cons_eraseIdx hk b').filterMap f
  rw [filterMap_cons_toList] at changed
  calc (f b).toList ++ (l.set k b').filterMap f
    _ ~ (f b).toList ++ ((f b').toList ++ (l.eraseIdx k).filterMap f) := changed.append_left _
    _ ~ (f b').toList ++ ((f b).toList ++ (l.eraseIdx k).filterMap f) :=
        List.perm_append_comm_assoc _ _ _
    _ ~ (f b').toList ++ l.filterMap f := (filterMap_eraseIdx_perm f h).append_left _

end Lists

namespace Pool

variable {α : Type} {p p' : Pool} {f : Link → Link.Outcome α} {i : Nat}

/-- What a call returns that has nothing to leave for later, or a direct call, apart from rows. -/
def answer (p : Pool) : PoolCall → Option (Except PoolError Unit)
  | .execute sql => some (p.execute sql).1
  | .executeBound s => some (p.executeBound s).1
  | .query sql => some ((p.query sql).1.map fun _ => ())
  | .queryBound s => some ((p.queryBound s).1.map fun _ => ())
  | .commit t retries => some (p.commit t retries).1
  | .escape text => some ((p.escape text).1.map fun _ => ())
  | .connect | .prepare | .submit _ | .submitUnawaited _ | .keepAlive | .cancel => none

/-- What ends in a move. A direct call ends with the connection's answer, or because there is no
connection for it. -/
def ends (p : Pool) : Move → List Completion
  | .call c => (p.answer c).toList.map .returned
  | .resume k =>
    match p.callers[k]? with
    | some (.pinging i) => ((p.callOn Link.ping i).map fun x => .pinged x.1).toList
    | _ => []
  | .worker i (.work retries) =>
    match p.workers[i]? with
    | some ⟨c, .working j⟩ =>
      [.served ((j.task.run p.options.deadlockBudget retries ⟨c, p.server⟩).1.map fun _ => ())]
    | _ => []
  | .worker _ _ | .take _ _ | .script _ | .release => []

/-- What is over after a move, with its report made if there is one to make. -/
def completions (p : Pool) : Move → List Completion
  | .call (.escape text) => p.ends (.call (.escape text))
  | .call c =>
    match p.borrow.1 with
    | .error _ => p.ends (.call c)
    | .ok _ => []
  | .resume k =>
    match p.callers[k]? with
    | some (.returning r) => [.returned r]
    | some (.pinged _ r) => [.pinged r]
    | _ => []
  | .worker i (.work retries) =>
    (p.ends (.worker i (.work retries))).filter fun c => c.fatal?.isNone
  | .worker i .tell =>
    match p.workers[i]? with
    | some ⟨_, .failed e⟩ => [.served (.error e)]
    | _ => []
  | .worker _ _ | .take _ _ | .script _ | .release => []

/-- What has ended and is not over. -/
def pending (p : Pool) : List Completion :=
  p.callers.filterMap Caller.pending? ++ p.workers.filterMap (·.phase.pending?)

theorem pending_same (callers : p'.callers = p.callers) (workers : p'.workers = p.workers) :
    p'.pending = p.pending := by
  rw [pending, pending, callers, workers]

theorem Posted.pending (h : Posted p p') : p'.pending = p.pending :=
  pending_same h.same.1 h.same.2.1

theorem pending_join (p : Pool) (c : Caller) :
    (p.join c).pending.Perm (c.pending?.toList ++ p.pending) := by
  have joined : (p.join c).pending =
      p.callers.filterMap Caller.pending? ++
        (c.pending?.toList ++ p.workers.filterMap (·.phase.pending?)) := by
    simp only [pending, join, List.filterMap_append, filterMap_cons_toList, List.filterMap_nil,
      List.append_nil, List.append_assoc]
  rw [joined]
  exact List.perm_append_comm_assoc _ _ _

theorem pending_setCaller {k : Nat} {c : Caller} (h : p.callers[k]? = some c)
    (callers : p'.callers = p.callers) (workers : p'.workers = p.workers) (c' : Caller) :
    (c.pending?.toList ++ (p'.setCaller k c').pending).Perm (c'.pending?.toList ++ p.pending) := by
  rw [← pending_same callers workers]
  rw [← callers] at h
  have changed := (filterMap_set_perm Caller.pending? h c').append_right
    (p'.workers.filterMap (·.phase.pending?))
  rw [List.append_assoc, List.append_assoc] at changed
  exact changed

theorem pending_dismiss {k : Nat} {c : Caller} (h : p.callers[k]? = some c)
    (callers : p'.callers = p.callers) (workers : p'.workers = p.workers) :
    (c.pending?.toList ++ (p'.dismiss k).pending).Perm p.pending := by
  rw [← pending_same callers workers]
  rw [← callers] at h
  have changed := (filterMap_eraseIdx_perm Caller.pending? h).append_right
    (p'.workers.filterMap (·.phase.pending?))
  rw [List.append_assoc] at changed
  exact changed

theorem pending_setWorker {w : Worker} (h : p.workers[i]? = some w) (w' : Worker) :
    (w.phase.pending?.toList ++ (p.setWorker i w').pending).Perm
      (w'.phase.pending?.toList ++ p.pending) := by
  have changed := (filterMap_set_perm (fun w : Worker => w.phase.pending?) h w').append_left
    (p.callers.filterMap Caller.pending?)
  exact (List.perm_append_comm_assoc _ _ _).trans (changed.trans
    (List.perm_append_comm_assoc _ _ _))

/-- A pool that fails to open or to prepare has no worker yet, so its close runs no job and leaves
nothing unreported. -/
theorem Disbands.silent (h : Disbands p p') (idle : p.workers = []) :
    p'.fatals = p.fatals ∧ p'.pending = p.pending := by
  obtain ⟨_, _, _, rfl, _⟩ := h
  exact ⟨rfl, pending_same rfl idle.symm⟩

theorem Manned.connect_silent (h : Manned p) :
    p.connect.2.fatals = p.fatals ∧ p.connect.2.pending = p.pending := by
  rcases h.connect_ends with ⟨_, he⟩ | ⟨_, hs, ⟨_, _, _, _, _, he⟩ | ⟨e, q, he, disbanded⟩⟩
  · rw [he]
    exact ⟨rfl, rfl⟩
  · rw [he]
    exact ⟨rfl, rfl⟩
  · rw [he]
    exact disbanded.silent (h.closed hs).2.2

theorem Manned.prepare_silent (h : Manned p) :
    p.prepare.2.fatals = p.fatals ∧ p.prepare.2.pending = p.pending := by
  rcases h.prepare_ends with ⟨_, he⟩ | ⟨hs, ⟨_, spare, _, _, _, he⟩ | ⟨e, q, he, disbanded⟩⟩
  · rw [he]
    exact ⟨rfl, rfl⟩
  · have idle : p.workers = [] := (h.opened hs).2.2
    rw [he]
    refine ⟨rfl, ?_⟩
    have ready : (spare.map ({ conn := · } : Connection → Worker)).filterMap (·.phase.pending?) =
        [] := by
      apply List.filterMap_eq_nil_iff.2
      intro w hw
      obtain ⟨c, _, rfl⟩ := List.mem_map.1 hw
      rfl
    simp only [pending, ready, idle, List.filterMap_nil]
  · rw [he]
    exact disbanded.silent (h.opened hs).2.2

/-- A direct call is refused and over, or it has ended and is still to be reported. -/
theorem enter_cases (f : Link → Link.Outcome α) (p : Pool) :
    (∃ e, e.isFatal = false ∧ p.borrow.1 = .error e ∧ (p.onDirect f).1 = .error e ∧
      p.enter f = p) ∨
    ∃ i r, ∃ q : Pool, p.borrow.1 = .ok i ∧ (p.onDirect f).1 = r ∧
      p.enter f = q.join (.returning (r.map fun _ => ())) ∧ q.fatals = p.fatals ∧
        q.pending = p.pending := by
  rcases p.borrow_cases with ⟨e, nonfatal, hb⟩ | ⟨i, c, hc, hb⟩
  · have refused : p.lend f = (.error e, p) := by simp only [lend, hb]
    exact .inl ⟨e, nonfatal, by rw [hb], by rw [onDirect, refused], enter_refused refused⟩
  · have made : p.lend f =
        (.ok (f ⟨c, p.server⟩).1, ({ p with turn := p.turn + 1 } : Pool).called i c f) := by
      simp only [lend, hb, callOn_some (p := { p with turn := p.turn + 1 }) hc]
    exact .inr ⟨i, _, _, by rw [hb], by rw [onDirect, made], enter_made made, rfl, rfl⟩

theorem call_balances (h : Manned p) (k : PoolCall) :
    (p.ends (.call k) ++ p.pending).Perm (p.completions (.call k) ++ (p.after k).pending) := by
  have direct {α : Type} (f : Link → Link.Outcome α) {r : Except PoolError Unit}
      (hr : r = (p.onDirect f).1.map fun _ => ()) :
      ([Completion.returned r] ++ p.pending).Perm
        ((match p.borrow.1 with
          | .error _ => [.returned r]
          | .ok _ => []) ++ (p.enter f).pending) := by
    rcases enter_cases f p with ⟨e, _, hb, _, hq⟩ | ⟨i, r', q, hb, hr', hq, _, same⟩
    · rw [hb, hq]
    · have joined := q.pending_join (.returning (r'.map fun _ => ()))
      rw [hb, hq, hr, hr', ← same]
      exact joined.symm
  have silent {q : Pool} (same : q.pending = p.pending) :
      ([] ++ p.pending).Perm
        ((match p.borrow.1 with
          | .error _ => []
          | .ok _ => []) ++ q.pending) := by
    rw [same]
    cases p.borrow.1 <;> exact .refl _
  cases k with
  | connect => exact silent h.connect_silent.2
  | prepare => exact silent h.prepare_silent.2
  | submit t => exact silent (submit_posted t p).pending
  | submitUnawaited t => exact silent (enqueue_posted ⟨t, none⟩ p).pending
  | keepAlive => exact silent (by simp [pending, after, join, Caller.pending?])
  | execute sql => exact direct (Link.execute sql) rfl
  | executeBound s => exact direct (Link.executeBound s) rfl
  | query sql => exact direct (Link.query sql) rfl
  | queryBound s => exact direct (Link.queryBound s) rfl
  | commit t retries =>
    refine direct (fun l => (l.commit t (.of p.options.deadlockBudget retries)).1) ?_
    exact (map_unit _).symm
  | escape text =>
    rcases p.escape_cases text with ⟨e, nonfatal, he⟩ | ⟨escaped, turn, he⟩
    · simp only [after, he, completions]
      exact .refl _
    · simp only [after, he, completions]
      exact .refl _
  | cancel =>
    refine silent (pending_same ?_ ?_)
    · simp only [after]
      split <;> rfl
    · simp only [after]
      split <;> rfl

theorem resume_balances {k : Nat} (hp : p.resume k = some p') :
    (p.ends (.resume k) ++ p.pending).Perm (p.completions (.resume k) ++ p'.pending) := by
  cases resume_some hp with
  | returned at_end =>
    simp only [ends, completions, at_end]
    exact (pending_dismiss at_end (p.callers_report _) (p.workers_report _)).symm
  | @pinged i c before next =>
    simp only [ends, completions, before, callOn_some next]
    have callers : (p.called i c Link.ping).callers = p.callers := rfl
    exact (pending_setCaller before callers rfl (.pinged i (Link.ping ⟨c, p.server⟩).1)).symm
  | past_all before none =>
    simp only [ends, completions, before, callOn_none none]
    exact (pending_setCaller before rfl rfl (.leaving p.workers.length)).symm
  | @reported i r after =>
    simp only [ends, completions, after]
    exact (pending_setCaller after (p.callers_report r) (p.workers_report r)
      (.pinging (i + 1))).symm
  | @left n more =>
    obtain ⟨callers, workers, _⟩ := (enqueue_posted ⟨.ping, none⟩ p).same
    simp only [ends, completions, more]
    exact (pending_setCaller more callers workers (.leaving n)).symm
  | gone at_end =>
    simp only [ends, completions, at_end]
    exact (pending_dismiss at_end rfl rfl).symm

/-- A worker that only changes its mind. -/
theorem advance_quiet {w w' : Worker} (hw : p.workers[i]? = some w) (quiet : w.phase.pending? = none)
    (quiet' : w'.phase.pending? = none) : p.pending.Perm (p.setWorker i w').pending := by
  have changed := pending_setWorker hw w'
  rw [quiet, quiet'] at changed
  exact changed.symm

theorem advance_balances {step : WorkerStep} (hp : p.advance i step = some p') :
    (p.ends (.worker i step) ++ p.pending).Perm
      (p.completions (.worker i step) ++ p'.pending) := by
  cases step with
  | look =>
    obtain ⟨c, hw, ⟨_, rfl⟩ | ⟨_, rfl⟩⟩ := look_some hp
    · exact advance_quiet hw rfl rfl
    · exact advance_quiet hw rfl rfl
  | receive =>
    obtain ⟨c, j, queue, hw, _, _, rfl⟩ := receive_some hp
    exact advance_quiet (p := { p with queue }) hw rfl rfl
  | wake =>
    obtain ⟨c, hw, _, rfl⟩ := wake_some hp
    exact advance_quiet hw rfl rfl
  | confirm =>
    obtain ⟨c, j, hw, ⟨_, rfl⟩ | ⟨_, rfl⟩⟩ := confirm_some hp
    · exact advance_quiet (p := { p with board := j.drop p.board }) hw rfl rfl
    · exact advance_quiet hw rfl rfl
  | work retries =>
    obtain ⟨c, j, r, l, hw, hrun, rfl⟩ := work_some hp
    have changed := pending_setWorker (p := { p with server := l.server, board := j.settle r p.board })
      hw ⟨l.conn, .after r⟩
    simp only [completions, ends, hw, hrun]
    cases r with
    | ok a => exact changed.symm.append_left _
    | error e =>
      -- the error is fatal, so the job is not over before it is reported
      have fatal : fatalOf (.error e : Except PoolError Unit) = some e :=
        fatalOf_of_isFatal (Task.run_error (t := j.task) (by rw [hrun]))
      have waits : ([.served (.error e)] : List Completion).filter (·.fatal?.isNone) = [] := by
        simp [Completion.fatal?, fatal]
      simp only [Except.map, waits]
      exact changed.symm
  | tell =>
    obtain ⟨c, e, hw, rfl⟩ := tell_some hp
    have changed := pending_setWorker (p := { p with fatals := p.fatals ++ [e] }) hw ⟨c, .ready⟩
    simp only [completions, hw]
    exact changed.symm

theorem move_balances (h : Manned p) {m : Move} (hm : p.move m = some p') :
    (p.ends m ++ p.pending).Perm (p.completions m ++ p'.pending) := by
  cases m with
  | call k =>
    obtain ⟨_, rfl⟩ := call_some hm
    exact call_balances h k
  | resume k => exact resume_balances hm
  | take k i =>
    cases hm
    exact .refl _
  | script d =>
    cases hm
    exact .refl _
  | worker i step => exact advance_balances hm
  | release =>
    obtain ⟨_, stopped, rfl⟩ := release_some hm
    have silent : p.workers.filterMap (·.phase.pending?) = [] := by
      apply List.filterMap_eq_nil_iff.2
      intro w hw
      rw [stopped_of_all stopped w hw]
      rfl
    show p.pending.Perm p.release.pending
    rw [pending, silent]
    exact .refl _

/-- The record of `p'` is that of `p` with the fatal ends of `done`. -/
def Reports (p : Pool) (done : List Completion) (p' : Pool) : Prop :=
  p'.fatals = p.fatals ++ done.filterMap Completion.fatal?

theorem reports_none {done : List Completion} (same : p'.fatals = p.fatals)
    (none : ∀ c ∈ done, c.fatal? = none) : Reports p done p' := by
  rw [Reports, List.filterMap_eq_nil_iff.2 none, List.append_nil]
  exact same

theorem call_reports (h : Manned p) (k : PoolCall) :
    Reports p (p.completions (.call k)) (p.after k) := by
  have direct {α : Type} (f : Link → Link.Outcome α) {r : Except PoolError Unit}
      (hr : r = (p.onDirect f).1.map fun _ => ()) :
      Reports p (match p.borrow.1 with
        | .error _ => [.returned r]
        | .ok _ => []) (p.enter f) := by
    rcases enter_cases f p with ⟨e, nonfatal, hb, he, hq⟩ | ⟨i, r', q, hb, _, hq, fatals, _⟩
    · rw [hb, hq, hr, he]
      exact reports_none rfl (by simp [Completion.fatal?, Except.map, fatalOf_error nonfatal])
    · rw [hb, hq]
      exact reports_none fatals (by simp)
  have silent {q : Pool} (same : q.fatals = p.fatals) :
      Reports p (match p.borrow.1 with
        | .error _ => []
        | .ok _ => []) q := by
    cases p.borrow.1 <;> exact reports_none same (by simp)
  cases k with
  | connect => exact silent h.connect_silent.1
  | prepare => exact silent h.prepare_silent.1
  | submit t => exact silent (submit_posted t p).same.2.2
  | submitUnawaited t => exact silent (enqueue_posted ⟨t, none⟩ p).same.2.2
  | keepAlive => exact silent rfl
  | execute sql => exact direct (Link.execute sql) rfl
  | executeBound s => exact direct (Link.executeBound s) rfl
  | query sql => exact direct (Link.query sql) rfl
  | queryBound s => exact direct (Link.queryBound s) rfl
  | commit t retries =>
    refine direct (fun l => (l.commit t (.of p.options.deadlockBudget retries)).1) ?_
    exact (map_unit _).symm
  | escape text =>
    rcases p.escape_cases text with ⟨e, nonfatal, he⟩ | ⟨escaped, turn, he⟩
    · have harmless : fatalOf ((p.escape text).1.map fun _ => ()) = none := by
        rw [he, fatalOf_map, fatalOf_error nonfatal]
      refine reports_none ?_ (by simpa [completions, ends, answer, Completion.fatal?] using harmless)
      simp only [after, he]
    · have harmless : fatalOf ((p.escape text).1.map fun _ => ()) = none := by
        rw [he]
        rfl
      refine reports_none ?_ (by simpa [completions, ends, answer, Completion.fatal?] using harmless)
      simp only [after, he]
  | cancel =>
    refine silent ?_
    simp only [after]
    split <;> rfl

/-- What workers have still to report is fatal. -/
def Grave (p : Pool) : Prop :=
  ∀ e, Completion.served (.error e) ∈ p.pending → e.isFatal = true

/-- A move ends one thing at most, and a job only where a worker runs it. -/
theorem ends_cases (p : Pool) (m : Move) : p.ends m = [] ∨ ∃ x, p.ends m = [x] ∧
    (x.served? = none ∨ ∃ i c j retries, m = .worker i (.work retries) ∧
      p.workers[i]? = some ⟨c, .working j⟩ ∧ x = .served
        ((j.task.run p.options.deadlockBudget retries ⟨c, p.server⟩).1.map fun _ => ())) := by
  cases m with
  | call k =>
    cases h : p.answer k with
    | none => exact .inl (by simp [ends, h])
    | some r => exact .inr ⟨.returned r, by simp [ends, h], .inl rfl⟩
  | resume k =>
    cases h : p.callers[k]? with
    | none => exact .inl (by simp [ends, h])
    | some c =>
      cases c with
      | pinging i =>
        cases hc : p.callOn Link.ping i with
        | none => exact .inl (by simp [ends, h, hc])
        | some x => exact .inr ⟨.pinged x.1, by simp [ends, h, hc], .inl rfl⟩
      | returning | pinged | leaving => exact .inl (by simp [ends, h])
  | worker i step =>
    cases step with
    | look | receive | wake | confirm | tell => exact .inl rfl
    | work retries =>
      cases hw : p.workers[i]? with
      | none => exact .inl (by simp [ends, hw])
      | some w =>
        obtain ⟨c, phase⟩ := w
        cases phase with
        | ready | waiting | holding | failed | stopped => exact .inl (by simp [ends, hw])
        | working j =>
          exact .inr ⟨_, by simp only [ends, hw], .inr ⟨i, c, j, retries, rfl, hw, rfl⟩⟩
  | take | script | release => exact .inl rfl

theorem Grave.move (grave : p.Grave) (h : Manned p) {m : Move} (hm : p.move m = some p') :
    p'.Grave := by
  intro e he
  have source := (move_balances h hm).mem_iff.2 (List.mem_append_right _ he)
  rcases List.mem_append.1 source with hnew | hold
  · rcases p.ends_cases m with hends | ⟨x, hends, hx⟩
    · simp [hends] at hnew
    · rw [hends, List.mem_singleton] at hnew
      rcases hx with hx | ⟨i, c, j, retries, _, _, hx⟩
      · rw [← hnew] at hx
        cases hx
      · rw [← hnew] at hx
        cases hr : (j.task.run p.options.deadlockBudget retries ⟨c, p.server⟩).1 with
        | ok a =>
          rw [hr] at hx
          cases hx
        | error e' =>
          rw [hr] at hx
          cases hx
          exact Task.run_error hr
  · exact grave e hold

end Pool

namespace Scene

/-- What ends in a run, in order. -/
def ended (s : Scene) : List Move → List Completion
  | [] => []
  | m :: ms => s.pool.ends m ++ (s.step m).elim [] fun t => t.ended ms

/-- What is over in a run, in order. -/
def completions (s : Scene) : List Move → List Completion
  | [] => []
  | m :: ms => s.pool.completions m ++ (s.step m).elim [] fun t => t.completions ms

/-- What holds of a pool with one worker, so that its reports can be followed. -/
structure Watched (o : Options) (start : Server) (s : Scene) : Prop where
  orderly : Orderly o start s.pool s.log
  manned : s.pool.Manned
  grave : s.pool.Grave

theorem Watched.step {o : Options} {start : Server} {s : Scene} (h : Watched o start s)
    (one : o.asyncThreads = 1) {m : Move} {p : Pool} (hm : s.pool.move m = some p) :
    Watched o start ⟨p, s.log.after s.pool m⟩ :=
  ⟨h.orderly.move one hm, h.manned.move hm, h.grave.move h.manned hm⟩

theorem Watched.run {o : Options} {start : Server} {s s' : Scene} (h : Watched o start s)
    (one : o.asyncThreads = 1) {ms : List Move} (hr : s.run ms = some s') : Watched o start s' :=
  run_keeps (P := Watched o start) (fun _ _ _ h hm => h.step one hm) h hr

end Scene

/-- Before the worker reports it, a direct call ends fatally and is reported. Then a job fails, but
not fatally, and a ping ends fatally; a last job is dropped. -/
def overtaken : List Move :=
  [.call (.execute "SELECT guid = 1"), .resume 0, .worker 0 .tell, .worker 0 .look,
    .worker 0 .receive, .worker 0 .confirm, .worker 0 (.work 0),
    .script (.addRule ⟨"PING", 1064, some 1⟩), .call .keepAlive, .resume 0, .resume 0, .resume 0,
    .resume 0, .resume 0, .call .cancel, .worker 0 .look, .release]

/-- The worker reports it at once. -/
def reported : List Move :=
  [.worker 0 .tell, .call (.execute "SELECT guid = 1"), .resume 0]

end QueryPool
