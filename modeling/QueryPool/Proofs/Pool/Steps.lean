import QueryPool.Pool.Callers
import QueryPool.Pool.Lifecycle

namespace QueryPool

/-- The server after `act` was done any number of times, on one connection after the other. -/
inductive Acts (act : Link → Link) : Server → Server → Prop where
  | refl (s : Server) : Acts act s s
  | step {s s' : Server} (c : Connection) (rest : Acts act (act ⟨c, s⟩).server s') : Acts act s s'

theorem Acts.trans {act : Link → Link} {s s' s'' : Server} (h : Acts act s s')
    (h' : Acts act s' s'') : Acts act s s'' := by
  induction h with
  | refl => exact h'
  | step c _ ih => exact .step c (ih h')

/-- The error of a result that ended fatally. -/
def fatalOf {α : Type} : Except PoolError α → Option PoolError
  | .ok _ => none
  | .error e => if e.isFatal then some e else none

namespace Pool

open Link (Outcome)

variable {α : Type} {p p' : Pool} {act : Link → Link} {f : Link → Outcome α} {c : Connection}
  {i : Nat}

theorem report_eq (p : Pool) (r : Except PoolError α) :
    p.report r = { p with fatals := p.fatals ++ (fatalOf r).toList } := by
  cases r with
  | ok a => simp [report, fatalOf]
  | error e => cases h : e.isFatal <;> simp [report, fatalOf, h]

theorem callers_report (p : Pool) (r : Except PoolError α) : (p.report r).callers = p.callers := by
  rw [report_eq]

theorem workers_report (p : Pool) (r : Except PoolError α) : (p.report r).workers = p.workers := by
  rw [report_eq]

theorem borrow_closed (hs : p.stage = .closed) :
    p.borrow = (.error (.config (.notOpenForUse p.name)), p) := by
  simp only [borrow, hs]

theorem borrow_shutDown (hs : p.stage = .shutDown) : p.borrow = (.error .closed, p) := by
  simp only [borrow, hs]

theorem borrow_next (ready : p.stage = .opened ∨ p.stage = .running) (some : p.direct ≠ []) :
    p.borrow = (.ok (p.turn % p.direct.length), { p with turn := p.turn + 1 }) := by
  have hempty : p.direct.isEmpty = false := by simpa using some
  rcases ready with hs | hs
  · simp only [borrow, hs, hempty, Bool.false_eq_true, if_false]
  · simp only [borrow, hs, hempty, Bool.false_eq_true, if_false]

/-- A direct connection is refused without a trace, or the next one is there. -/
theorem borrow_cases (p : Pool) : (∃ e, e.isFatal = false ∧ p.borrow = (.error e, p)) ∨
    ∃ i c, p.direct[i]? = some c ∧ p.borrow = (.ok i, { p with turn := p.turn + 1 }) := by
  by_cases ready : p.stage = .opened ∨ p.stage = .running
  · by_cases hd : p.direct = []
    · refine .inl ⟨.closed, rfl, ?_⟩
      rcases ready with hs | hs
      · simp only [borrow, hs, hd, List.isEmpty_nil, if_true]
      · simp only [borrow, hs, hd, List.isEmpty_nil, if_true]
    · have hlen : p.turn % p.direct.length < p.direct.length :=
        Nat.mod_lt _ (List.length_pos_iff.2 hd)
      exact .inr ⟨_, _, List.getElem?_eq_getElem hlen, borrow_next ready hd⟩
  · left
    cases hs : p.stage with
    | closed => exact ⟨_, rfl, borrow_closed hs⟩
    | shutDown => exact ⟨_, rfl, borrow_shutDown hs⟩
    | opened => exact absurd (.inl hs) ready
    | running => exact absurd (.inr hs) ready

/-- The pool after a call on its direct connection `c`, the `i`-th. -/
def called (p : Pool) (i : Nat) (c : Connection) (f : Link → Outcome α) : Pool :=
  { p with
    server := (f ⟨c, p.server⟩).2.server, direct := p.direct.set i (f ⟨c, p.server⟩).2.conn }

theorem callOn_some (hc : p.direct[i]? = some c) (f : Link → Outcome α) :
    p.callOn f i = some ((f ⟨c, p.server⟩).1, p.called i c f) := by
  rw [callOn, hc]
  rfl

theorem callOn_none (hc : p.direct[i]? = none) (f : Link → Outcome α) : p.callOn f i = none := by
  rw [callOn, hc]
  rfl

/-- A call on the direct connections is refused, or made on one of them. -/
theorem lend_cases (f : Link → Outcome α) (p : Pool) :
    (∃ e, e.isFatal = false ∧ p.lend f = (.error e, p)) ∨
    ∃ i c, p.direct[i]? = some c ∧
      p.lend f = (.ok (f ⟨c, p.server⟩).1, ({ p with turn := p.turn + 1 } : Pool).called i c f) := by
  rcases p.borrow_cases with ⟨e, nonfatal, hb⟩ | ⟨i, c, hc, hb⟩
  · exact .inl ⟨e, nonfatal, by simp only [lend, hb]⟩
  · have called := callOn_some (p := { p with turn := p.turn + 1 }) hc f
    exact .inr ⟨i, c, hc, by simp only [lend, hb, called]⟩

theorem enter_refused {e : PoolError} (h : p.lend f = (.error e, p')) : p.enter f = p' := by
  simp only [enter, h]

theorem enter_made {r : Except PoolError α} (h : p.lend f = (.ok r, p')) :
    p.enter f = p'.join (.returning (r.map fun _ => ())) := by
  simp only [enter, h]

theorem escape_cases (text : String) (p : Pool) :
    (∃ e, e.isFatal = false ∧ p.escape text = (.error e, p)) ∨
      ∃ escaped turn, p.escape text = (.ok escaped, { p with turn }) := by
  by_cases ht : text = ""
  · exact .inr ⟨"", p.turn, by simp only [escape, ht, if_true]⟩
  · rcases p.borrow_cases with ⟨e, nonfatal, hb⟩ | ⟨i, c, hc, hb⟩
    · exact .inl ⟨e, nonfatal, by simp only [escape, ht, if_false, hb]⟩
    · exact .inr ⟨c.escape text, p.turn + 1, by simp only [escape, ht, if_false, hb, hc]⟩

/-- What a caller may do at a step. -/
inductive Resumes (p : Pool) (k : Nat) : Pool → Prop where
  | returned {r : Except PoolError Unit} (at_end : p.callers[k]? = some (.returning r)) :
      Resumes p k ((p.report r).dismiss k)
  | pinged {i : Nat} {c : Connection} (before : p.callers[k]? = some (.pinging i))
      (next : p.direct[i]? = some c) :
      Resumes p k ((p.called i c Link.ping).setCaller k (.pinged i (Link.ping ⟨c, p.server⟩).1))
  | past_all {i : Nat} (before : p.callers[k]? = some (.pinging i)) (none : p.direct[i]? = none) :
      Resumes p k (p.setCaller k (.leaving p.workers.length))
  | reported {i : Nat} {r : Except PoolError Unit} (after : p.callers[k]? = some (.pinged i r)) :
      Resumes p k ((p.report r).setCaller k (.pinging (i + 1)))
  | left {n : Nat} (more : p.callers[k]? = some (.leaving (n + 1))) :
      Resumes p k ((p.submitUnawaited .ping).setCaller k (.leaving n))
  | gone (at_end : p.callers[k]? = some (.leaving 0)) : Resumes p k (p.dismiss k)

theorem resume_some {k : Nat} (h : p.resume k = some p') : p.Resumes k p' := by
  unfold resume at h
  split at h
  · rename_i r hr
    cases h
    exact .returned hr
  · rename_i i hi
    cases hc : p.direct[i]? with
    | none =>
      rw [callOn_none hc] at h
      cases h
      exact .past_all hi hc
    | some c =>
      rw [callOn_some hc] at h
      cases h
      exact .pinged hi hc
  · rename_i i r hr
    cases h
    exact .reported hr
  · rename_i n hn
    cases h
    exact .left hn
  · rename_i h0
    cases h
    exact .gone h0
  · cases h

/-- What a caller changes by reporting and by going on. -/
def Noted (p p' : Pool) : Prop := ∃ fatals callers, p' = { p with fatals, callers }

theorem report_noted (p : Pool) (r : Except PoolError α) : Noted p (p.report r) :=
  ⟨_, p.callers, report_eq p r⟩

theorem Noted.setCaller (h : Noted p p') (k : Nat) (c : Caller) : Noted p (p'.setCaller k c) := by
  obtain ⟨fatals, callers, rfl⟩ := h
  exact ⟨fatals, callers.set k c, rfl⟩

theorem Noted.dismiss (h : Noted p p') (k : Nat) : Noted p (p'.dismiss k) := by
  obtain ⟨fatals, callers, rfl⟩ := h
  exact ⟨fatals, callers.eraseIdx k, rfl⟩

theorem Noted.refl (p : Pool) : Noted p p := ⟨p.fatals, p.callers, rfl⟩

theorem join_noted (p : Pool) (c : Caller) : Noted p (p.join c) := ⟨p.fatals, _, rfl⟩

/-- What a caller may change by acts on direct connections. -/
def Aside (act : Link → Link) (p p' : Pool) : Prop :=
  ∃ server direct turn fatals callers, Acts act p.server server ∧
    p' = { p with server, direct, turn, fatals, callers }

theorem Aside.refl (act : Link → Link) (p : Pool) : Aside act p p :=
  ⟨p.server, p.direct, p.turn, p.fatals, p.callers, .refl _, rfl⟩

theorem Aside.noted {p'' : Pool} (h : Aside act p p') (h' : Noted p' p'') : Aside act p p'' := by
  obtain ⟨server, direct, turn, _, _, acts, rfl⟩ := h
  obtain ⟨fatals, callers, rfl⟩ := h'
  exact ⟨server, direct, turn, fatals, callers, acts, rfl⟩

theorem called_aside (p : Pool) (i : Nat) (c : Connection) (f : Link → Outcome α) :
    Aside (fun l => (f l).2) p (p.called i c f) :=
  ⟨_, _, p.turn, p.fatals, p.callers, .step c (.refl _), rfl⟩

theorem enter_aside (p : Pool) (f : Link → Outcome α) :
    Aside (fun l => (f l).2) p (p.enter f) := by
  rcases p.lend_cases f with ⟨e, _, h⟩ | ⟨i, c, _, h⟩
  · rw [enter_refused h]
    exact .refl _ p
  · rw [enter_made h]
    exact ⟨_, _, p.turn + 1, p.fatals, _, .step c (.refl _), rfl⟩

theorem escape_aside (text : String) (p : Pool) : Aside id p (p.escape text).2 := by
  rcases p.escape_cases text with ⟨e, _, h⟩ | ⟨_, turn, h⟩
  · rw [h]
    exact .refl id p
  · rw [h]
    exact ⟨p.server, p.direct, turn, p.fatals, p.callers, .refl _, rfl⟩

theorem enqueue_accepted (j : Job) (hc : p.queue.cancelled = false) :
    p.enqueue j = { p with queue := p.queue.send j } := by
  simp only [enqueue, WorkQueue.push_queued j hc]

theorem enqueue_refused (j : Job) (hc : p.queue.cancelled = true) :
    p.enqueue j = { p with board := j.drop p.board } := by
  simp only [enqueue, WorkQueue.push_refused j hc]

/-- What a caller may change by leaving jobs in the queue. -/
def Posted (p p' : Pool) : Prop := ∃ queue board, p' = { p with queue, board } ∧
  queue.cancelled = p.queue.cancelled ∧ (p.queue.cancelled = true → queue = p.queue)

theorem Posted.refl (p : Pool) : Posted p p := ⟨p.queue, p.board, rfl, rfl, fun _ => rfl⟩

theorem Posted.same (h : Posted p p') :
    p'.callers = p.callers ∧ p'.workers = p.workers ∧ p'.fatals = p.fatals := by
  obtain ⟨_, _, rfl, _⟩ := h
  exact ⟨rfl, rfl, rfl⟩

theorem Posted.trans {p'' : Pool} (h : Posted p p') (h' : Posted p' p'') : Posted p p'' := by
  obtain ⟨queue, board, rfl, hc, hq⟩ := h
  obtain ⟨queue', board', rfl, hc', hq'⟩ := h'
  refine ⟨queue', board', rfl, hc'.trans hc, fun ended => ?_⟩
  have same := hq ended
  exact (hq' (hc.trans ended)).trans same

theorem enqueue_posted (j : Job) (p : Pool) : Posted p (p.enqueue j) := by
  cases hc : p.queue.cancelled with
  | true =>
    rw [enqueue_refused j hc]
    exact ⟨p.queue, _, rfl, rfl, fun _ => rfl⟩
  | false =>
    rw [enqueue_accepted j hc]
    refine ⟨p.queue.send j, p.board, rfl, rfl, fun ended => ?_⟩
    rw [hc] at ended
    cases ended

theorem submit_posted (t : Task) (p : Pool) : Posted p (p.submit t).2 := by
  have first : Posted p { p with board := (p.board.add t.kind .pending).2 } :=
    ⟨p.queue, _, rfl, rfl, fun _ => rfl⟩
  exact first.trans (enqueue_posted _ _)

theorem openConnection_cases (side : Side) (p : Pool) :
    ∃ server, Acts (fun l => l.openSession.2) p.server server ∧
      ((∃ c, p.openConnection side = (.ok c, { p with server })) ∨
        ∃ e, p.openConnection side = (.error e, { p with server })) := by
  have acts : Acts (fun l => l.openSession.2) p.server
      (Link.openSession ⟨p.connection side, p.server⟩).2.server :=
    .step (p.connection side) (.refl _)
  refine ⟨_, acts, ?_⟩
  unfold openConnection
  rcases Link.openSession ⟨p.connection side, p.server⟩ with ⟨e | u, l⟩
  · exact .inr ⟨e, rfl⟩
  · exact .inl ⟨l.conn, rfl⟩

theorem openSide_eq (side : Side) (n : Nat) (p : Pool) : ∃ server spare direct,
    Acts (fun l => l.openSession.2) p.server server ∧
      (openSide side n p).2 = { p with server, spare, direct } ∧
      (side = .async → spare.length ≤ p.spare.length + n) ∧ (side = .sync → spare = p.spare) := by
  induction n generalizing p with
  | zero =>
    exact ⟨p.server, p.spare, p.direct, .refl _, rfl, fun _ => Nat.le_refl _, fun _ => rfl⟩
  | succ n ih =>
    obtain ⟨server, first, ⟨c, hc⟩ | ⟨e, he⟩⟩ := p.openConnection_cases side
    · obtain ⟨server', spare, direct, rest, hrest, hasync, hsync⟩ :=
        ih (({ p with server } : Pool).addConnection side c)
      simp only [openSide, hc, hrest]
      cases side with
      | async =>
        have hlen := hasync rfl
        simp only [addConnection, List.length_append, List.length_singleton] at hlen
        exact ⟨server', spare, direct, first.trans rest, rfl, fun _ => by omega,
          fun h => (by cases h)⟩
      | sync =>
        exact ⟨server', spare, direct, first.trans rest, rfl, fun h => (by cases h), hsync⟩
    · simp only [openSide, he]
      exact ⟨server, p.spare, p.direct, first, rfl, fun _ => by omega, fun _ => rfl⟩

theorem openConnections_eq (p : Pool) : ∃ server spare direct,
    Acts (fun l => l.openSession.2) p.server server ∧
      p.openConnections.2 = { p with server, spare, direct } ∧
      spare.length ≤ p.spare.length + p.options.asyncThreads.toNat := by
  obtain ⟨server, spare, direct, first, hasync, hlen, _⟩ :=
    openSide_eq .async p.options.asyncThreads.toNat p
  unfold openConnections
  split
  · rename_i q hq
    rw [hq] at hasync
    obtain ⟨server', spare', direct', rest, hsync, _, hspare⟩ :=
      openSide_eq .sync q.options.syncThreads.toNat q
    simp only at hasync
    subst hasync
    refine ⟨server', spare', direct', first.trans rest, hsync, ?_⟩
    rw [hspare rfl]
    exact hlen rfl
  · exact ⟨server, spare, direct, first, hasync, hlen rfl⟩

/-- Without workers a close ends the queue and drops what is in it. -/
theorem close_idle (running : p.stage ≠ .shutDown) (idle : p.workers = []) :
    p.close = p.cancel.release := by
  have hw : p.cancel.workers = [] := idle
  rw [close, if_neg running]
  simp [windUpAll, hw]

/-- Opening is refused, or opens the connections of both sides, or closes the pool. -/
theorem connect_ends (p : Pool) :
    (∃ e, p.options.validate = .error e ∧ p.connect = (.error e, p)) ∨
    p.options.validate = .ok () ∧
      (p.stage ≠ .closed ∧ p.connect = (.error (.config (.alreadyOpened p.name)), p) ∨
      p.stage = .closed ∧
        ((∃ q, p.openConnections = (.ok (), q) ∧
          p.connect = (.ok (), { q with stage := .opened })) ∨
        ∃ e q, p.openConnections = (.error e, q) ∧ p.connect = (.error e, q.close))) := by
  unfold connect
  cases hv : p.options.validate with
  | error e => exact .inl ⟨e, rfl, rfl⟩
  | ok u =>
    refine .inr ⟨rfl, ?_⟩
    by_cases hs : p.stage = .closed
    · simp only [if_neg (not_not_intro hs)]
      refine .inr ⟨hs, ?_⟩
      rcases ho : p.openConnections with ⟨e | u, q⟩
      · exact .inr ⟨e, q, rfl, rfl⟩
      · exact .inl ⟨q, rfl, rfl⟩
    · exact .inl ⟨hs, by simp only [if_pos hs]⟩

theorem connect_cases (p : Pool) : p.connect.2 = p ∨ (p.stage = .closed ∧
    ∃ server spare direct, Acts (fun l => l.openSession.2) p.server server ∧
      spare.length ≤ p.spare.length + p.options.asyncThreads.toNat ∧
      (p.connect.2 = { p with server, spare, direct, stage := .opened } ∨
        p.connect.2 = ({ p with server, spare, direct } : Pool).close)) := by
  obtain ⟨server, spare, direct, acts, hopen, hlen⟩ := p.openConnections_eq
  rcases p.connect_ends with ⟨e, _, h⟩ | ⟨_, ⟨_, h⟩ | ⟨hs, ⟨q, hq, h⟩ | ⟨e, q, hq, h⟩⟩⟩
  · exact .inl (by rw [h])
  · exact .inl (by rw [h])
  · rw [hq] at hopen
    refine .inr ⟨hs, server, spare, direct, acts, hlen, .inl ?_⟩
    rw [h, show q = _ from hopen]
  · rw [hq] at hopen
    refine .inr ⟨hs, server, spare, direct, acts, hlen, .inr ?_⟩
    rw [h, show q = _ from hopen]

theorem prepareEach_acts (cs : List Connection) (s : Server) :
    Acts (fun l => l.prepareStatements.2) s (prepareEach cs s).2 := by
  induction cs generalizing s with
  | nil => exact .refl s
  | cons c cs ih =>
    refine .step c ?_
    rw [prepareEach]
    rcases Link.prepareStatements ⟨c, s⟩ with ⟨e | u, l⟩
    · exact .refl _
    · have rest := ih l.server
      rcases hr : prepareEach cs l.server with ⟨e | cs', s'⟩ <;>
        (rw [hr] at rest; simpa only [hr] using rest)

theorem length_prepareEach {cs cs' : List Connection} {s s' : Server}
    (h : prepareEach cs s = (.ok cs', s')) : cs'.length = cs.length := by
  induction cs generalizing s cs' s' with
  | nil =>
    cases h
    rfl
  | cons c cs ih =>
    unfold prepareEach at h
    split at h
    · cases h
    · split at h
      · rename_i rest s'' hrest
        cases h
        rw [List.length_cons, List.length_cons, ih hrest]
      · rename_i failed
        exact (failed _ _ h).elim

/-- Preparing is refused, or starts a worker for each spare connection, or closes the pool. -/
theorem prepare_ends (p : Pool) :
    p.stage ≠ .opened ∧ p.prepare = (.error (.config (.notOpenForPreparing p.name)), p) ∨
    p.stage = .opened ∧
      ((∃ spare direct s server, prepareEach p.spare p.server = (.ok spare, s) ∧
        prepareEach p.direct s = (.ok direct, server) ∧ p.prepare = (.ok (), { p with
          server, direct, spare := [], stage := .running,
          workers := spare.map ({ conn := · }) })) ∨
      ∃ e server, Acts (fun l => l.prepareStatements.2) p.server server ∧
        p.prepare = (.error e, ({ p with server } : Pool).close)) := by
  unfold prepare
  by_cases hs : p.stage = .opened
  · simp only [if_neg (not_not_intro hs)]
    refine .inr ⟨hs, ?_⟩
    have first := prepareEach_acts p.spare p.server
    rcases hspare : prepareEach p.spare p.server with ⟨e | spare, s⟩ <;> rw [hspare] at first
    · exact .inr ⟨e, s, first, by simp only [start, hspare]⟩
    · have rest := prepareEach_acts p.direct s
      rcases hdirect : prepareEach p.direct s with ⟨e | direct, s'⟩ <;> rw [hdirect] at rest
      · exact .inr ⟨e, s', first.trans rest, by simp only [start, hspare, hdirect]⟩
      · exact .inl ⟨spare, direct, s, s', rfl, hdirect, by simp only [start, hspare, hdirect]⟩
  · exact .inl ⟨hs, by simp only [if_pos hs]⟩

theorem prepare_cases (p : Pool) : p.prepare.2 = p ∨ (p.stage = .opened ∧
    ∃ server, Acts (fun l => l.prepareStatements.2) p.server server ∧
      ((∃ direct spare : List Connection, spare.length = p.spare.length ∧ p.prepare.2 =
          { p with server, direct, spare := [], stage := .running,
                   workers := spare.map ({ conn := · }) }) ∨
        p.prepare.2 = ({ p with server } : Pool).close)) := by
  rcases p.prepare_ends with ⟨_, h⟩ |
    ⟨hs, ⟨spare, direct, s, server, hspare, hdirect, h⟩ | ⟨e, server, acts, h⟩⟩
  · exact .inl (by rw [h])
  · have first := prepareEach_acts p.spare p.server
    have rest := prepareEach_acts p.direct s
    rw [hspare] at first
    rw [hdirect] at rest
    refine .inr ⟨hs, server, first.trans rest, .inl ⟨direct, spare, length_prepareEach hspare, ?_⟩⟩
    rw [h]
  · exact .inr ⟨hs, server, acts, .inr (by rw [h])⟩

theorem look_some (h : p.look i = some p') : ∃ c, p.workers[i]? = some ⟨c, .ready⟩ ∧
    (p.queue.cancelled = true ∧ p' = p.setWorker i ⟨c.shutDown, .stopped⟩ ∨
      p.queue.cancelled = false ∧ p' = p.setWorker i ⟨c, .waiting⟩) := by
  unfold look at h
  split at h
  · rename_i c hw
    refine ⟨c, hw, ?_⟩
    cases hc : p.queue.cancelled with
    | true =>
      simp only [hc, if_true] at h
      cases h
      exact .inl ⟨rfl, rfl⟩
    | false =>
      simp only [hc, Bool.false_eq_true, if_false] at h
      cases h
      exact .inr ⟨rfl, rfl⟩
  · cases h

theorem receive_some (h : p.receive i = some p') : ∃ c j queue,
    p.workers[i]? = some ⟨c, .waiting⟩ ∧ p.queue.items = j :: queue.items ∧
      queue.cancelled = p.queue.cancelled ∧
        p' = ({ p with queue } : Pool).setWorker i ⟨c, .holding j⟩ := by
  unfold receive at h
  split at h
  · rename_i c j queue hw hq
    cases h
    obtain ⟨hitems, hcancelled⟩ := WorkQueue.receive_some hq
    exact ⟨c, j, queue, hw, hitems, hcancelled, rfl⟩
  · cases h

theorem wake_some (h : p.wake i = some p') : ∃ c, p.workers[i]? = some ⟨c, .waiting⟩ ∧
    p.queue.cancelled = true ∧ p' = p.setWorker i ⟨c.shutDown, .stopped⟩ := by
  unfold wake at h
  split at h
  · rename_i c hw
    split at h
    · rename_i hc
      cases h
      exact ⟨c, hw, hc, rfl⟩
    · cases h
  · cases h

theorem confirm_some (h : p.confirm i = some p') : ∃ c j,
    p.workers[i]? = some ⟨c, .holding j⟩ ∧
      (p.queue.cancelled = true ∧
          p' = ({ p with board := j.drop p.board } : Pool).setWorker i ⟨c.shutDown, .stopped⟩ ∨
        p.queue.cancelled = false ∧ p' = p.setWorker i ⟨c, .working j⟩) := by
  unfold confirm at h
  split at h
  · rename_i c j hw
    refine ⟨c, j, hw, ?_⟩
    cases hc : p.queue.cancelled with
    | true =>
      simp only [hc, if_true] at h
      cases h
      exact .inl ⟨rfl, rfl⟩
    | false =>
      simp only [hc, Bool.false_eq_true, if_false] at h
      cases h
      exact .inr ⟨rfl, rfl⟩
  · cases h

/-- A worker at work runs its job on the server as it finds it and settles the job's slot. -/
theorem work_some {retries : Nat} (h : p.work i retries = some p') : ∃ c j r l,
    p.workers[i]? = some ⟨c, .working j⟩ ∧
      j.task.run p.options.deadlockBudget retries ⟨c, p.server⟩ = (r, l) ∧
        p' = ({ p with server := l.server, board := j.settle r p.board } : Pool).setWorker i
          ⟨l.conn, .after r⟩ := by
  unfold work at h
  split at h
  · rename_i c j hw
    rcases hrun : j.task.run p.options.deadlockBudget retries ⟨c, p.server⟩ with ⟨r, l⟩
    simp only [hrun] at h
    exact ⟨c, j, r, l, hw, hrun, (Option.some.inj h).symm⟩
  · cases h

theorem tell_some (h : p.tell i = some p') : ∃ c e, p.workers[i]? = some ⟨c, .failed e⟩ ∧
    p' = ({ p with fatals := p.fatals ++ [e] } : Pool).setWorker i ⟨c, .ready⟩ := by
  unfold tell at h
  split at h
  · rename_i c e hw
    cases h
    exact ⟨c, e, hw, rfl⟩
  · cases h

end Pool
end QueryPool
