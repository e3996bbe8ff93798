import QueryPool.Proofs.Pool.Settlement

namespace QueryPool

variable {o : Options} {start : Server} {p p' q : Pool} {g : Log} {act : Link → Link}
  {c : Connection} {j : Job} {i : Nat}

namespace Scene

def Leads (s s' : Scene) : Prop := ∃ ms, s.run ms = some s'

theorem Leads.refl (s : Scene) : Leads s s := ⟨[], rfl⟩

theorem Leads.cons {s t s' : Scene} {m : Move} (hm : s.step m = some t) (h : Leads t s') :
    Leads s s' := by
  obtain ⟨ms, hms⟩ := h
  refine ⟨m :: ms, ?_⟩
  rw [run, List.foldlM_cons, hm]
  exact hms

theorem Leads.trans {s t s' : Scene} (h : Leads s t) (h' : Leads t s') : Leads s s' := by
  obtain ⟨ms, hms⟩ := h
  obtain ⟨ms', hms'⟩ := h'
  refine ⟨ms ++ ms', ?_⟩
  rw [run] at hms ⊢
  rw [List.foldlM_append, hms]
  exact hms'

theorem step_worker {i : Nat} {w : WorkerStep} (h : p.advance i w = some q) (g : Log) :
    step ⟨p, g⟩ (.worker i w) = some ⟨q, g.afterStep p i w⟩ := by
  simp only [step, Pool.move, h, Option.map_some, Log.after]

end Scene

namespace Pool

/-- Worker `i` of `q` has stopped; the other workers, the queue and the stage are those of `p`. -/
structure Halts (p : Pool) (i : Nat) (q : Pool) : Prop where
  workers : ∃ c, q.workers = p.workers.set i ⟨c, .stopped⟩
  queue : q.queue = p.queue
  stage : q.stage = p.stage

theorem look_halts (hw : p.workers[i]? = some ⟨c, .ready⟩) (hc : p.queue.cancelled = true) :
    ∃ q, p.look i = some q ∧ Halts p i q := by
  refine ⟨p.stopWorker i ⟨c, .ready⟩, ?_, ⟨_, rfl⟩, rfl, rfl⟩
  simp only [look, hw, hc, if_true]

theorem wake_halts (hw : p.workers[i]? = some ⟨c, .waiting⟩) (hc : p.queue.cancelled = true) :
    ∃ q, p.wake i = some q ∧ Halts p i q := by
  refine ⟨p.stopWorker i ⟨c, .waiting⟩, ?_, ⟨_, rfl⟩, rfl, rfl⟩
  simp only [wake, hw, hc, if_true]

theorem confirm_halts (hw : p.workers[i]? = some ⟨c, .holding j⟩) (hc : p.queue.cancelled = true) :
    ∃ q, p.confirm i = some q ∧ Halts p i q := by
  refine ⟨({ p with board := j.drop p.board } : Pool).stopWorker i ⟨c, .ready⟩, ?_, ⟨_, rfl⟩, rfl, rfl⟩
  simp only [confirm, hw, hc, if_true]

/-- Worker `i` of `q` is done with its job; the rest is that of `p`. -/
structure Readies (p : Pool) (i : Nat) (q : Pool) : Prop where
  workers : ∃ c, q.workers = p.workers.set i ⟨c, .ready⟩
  queue : q.queue = p.queue
  stage : q.stage = p.stage

/-- Such a worker stops at its next look. -/
theorem Readies.halts (h : Readies p i q) (hi : i < p.workers.length)
    (hc : p.queue.cancelled = true) : ∃ q', q.look i = some q' ∧ Halts p i q' := by
  obtain ⟨⟨c, hworkers⟩, hqueue, hstage⟩ := h
  have hw : q.workers[i]? = some ⟨c, .ready⟩ := by rw [hworkers, List.getElem?_set_self hi]
  obtain ⟨q', hq', ⟨c', hstopped⟩, hqueue', hstage'⟩ := look_halts hw (by rwa [hqueue])
  refine ⟨q', hq', ⟨c', ?_⟩, hqueue'.trans hqueue, hstage'.trans hstage⟩
  rw [hstopped, hworkers, List.set_set]

theorem tell_readies {e : PoolError} (hw : p.workers[i]? = some ⟨c, .failed e⟩) :
    ∃ q, p.tell i = some q ∧ Readies p i q := by
  refine ⟨({ p with fatals := p.fatals ++ [e] } : Pool).setWorker i ⟨c, .ready⟩, ?_, ⟨c, rfl⟩, rfl,
    rfl⟩
  simp only [tell, hw]

/-- A job in hand is run to its end; then the worker may have something to report. -/
theorem work_ends (hw : p.workers[i]? = some ⟨c, .working j⟩) (retries : Nat) : ∃ q c',
    p.work i retries = some q ∧ q.queue = p.queue ∧ q.stage = p.stage ∧
      (q.workers = p.workers.set i ⟨c', .ready⟩ ∨
        ∃ e, q.workers = p.workers.set i ⟨c', .failed e⟩) := by
  obtain ⟨q, hq⟩ : ∃ q, p.work i retries = some q := by
    simp only [work, hw]
    exact ⟨_, rfl⟩
  obtain ⟨_, _, r, l, _, _, rfl⟩ := work_some hq
  refine ⟨_, l.conn, hq, rfl, rfl, ?_⟩
  cases r with
  | ok a => exact .inl rfl
  | error e => exact .inr ⟨e, rfl⟩

theorem finish_leads {retries : Nat} (h : p.finish i retries = some q) (g : Log) :
    ∃ g', Scene.Leads ⟨p, g⟩ ⟨q, g'⟩ := by
  obtain ⟨p', hwork, rfl⟩ := Option.map_eq_some_iff.1 h
  have worked := Scene.step_worker (w := .work retries) hwork g
  cases htell : p'.tell i with
  | none => exact ⟨_, .cons worked (.refl _)⟩
  | some p'' =>
    exact ⟨_, .cons worked (.cons (Scene.step_worker (w := .tell) htell _) (.refl _))⟩

theorem finish_readies (hw : p.workers[i]? = some ⟨c, .working j⟩) (retries : Nat) :
    ∃ q, p.finish i retries = some q ∧ Readies p i q := by
  obtain ⟨q, c', hq, hqueue, hstage, ends⟩ := work_ends hw retries
  have hi : i < p.workers.length := (List.getElem?_eq_some_iff.1 hw).1
  rcases ends with hworkers | ⟨e, hworkers⟩
  · have untold : q.tell i = none := by simp only [tell, hworkers, List.getElem?_set_self hi]
    refine ⟨q, ?_, ⟨c', hworkers⟩, hqueue, hstage⟩
    simp only [finish, hq, Option.map_some, untold, Option.getD_none]
  · have hw' : q.workers[i]? = some ⟨c', .failed e⟩ := by
      rw [hworkers, List.getElem?_set_self hi]
    obtain ⟨q', hq', ⟨c'', hworkers'⟩, hqueue', hstage'⟩ := tell_readies hw'
    refine ⟨q', ?_, ⟨c'', ?_⟩, hqueue'.trans hqueue, hstage'.trans hstage⟩
    · simp only [finish, hq, Option.map_some, hq', Option.getD_some]
    · rw [hworkers', hworkers, List.set_set]

/-- The way in which a pool winds up a worker is one that the worker can take. -/
theorem windUp_leads {w : Worker} (hw : p.workers[i]? = some w) (hc : p.queue.cancelled = true)
    (g : Log) (retries : Nat) :
    Halts p i (p.windUp i retries) ∧ ∃ g', Scene.Leads ⟨p, g⟩ ⟨p.windUp i retries, g'⟩ := by
  obtain ⟨c, phase⟩ := w
  cases phase with
  | stopped =>
    have he : p.windUp i retries = p := by simp only [windUp, hw]
    have same : p.workers = p.workers.set i ⟨c, .stopped⟩ := by
      obtain ⟨hi, hget⟩ := List.getElem?_eq_some_iff.1 hw
      rw [← hget, List.set_getElem_self]
    rw [he]
    exact ⟨⟨⟨c, same⟩, rfl, rfl⟩, g, .refl _⟩
  | ready =>
    obtain ⟨q, hq, halts⟩ := look_halts hw hc
    have he : p.windUp i retries = q := by simp only [windUp, hw, hq, Option.getD_some]
    rw [he]
    exact ⟨halts, _, .cons (Scene.step_worker (w := .look) hq g) (.refl _)⟩
  | waiting =>
    obtain ⟨q, hq, halts⟩ := wake_halts hw hc
    have he : p.windUp i retries = q := by simp only [windUp, hw, hq, Option.getD_some]
    rw [he]
    exact ⟨halts, _, .cons (Scene.step_worker (w := .wake) hq g) (.refl _)⟩
  | holding j =>
    obtain ⟨q, hq, halts⟩ := confirm_halts hw hc
    have he : p.windUp i retries = q := by simp only [windUp, hw, hq, Option.getD_some]
    rw [he]
    exact ⟨halts, _, .cons (Scene.step_worker (w := .confirm) hq g) (.refl _)⟩
  | working j =>
    -- it finishes its job and stops at its next look
    obtain ⟨q, hq, readies⟩ := finish_readies hw retries
    obtain ⟨g', before⟩ := finish_leads hq g
    obtain ⟨q', hq', halts⟩ := readies.halts (List.getElem?_eq_some_iff.1 hw).1 hc
    have he : p.windUp i retries = q' := by
      simp only [windUp, hw, hq, Option.bind_some, hq', Option.getD_some]
    rw [he]
    exact ⟨halts, _, before.trans (.cons (Scene.step_worker (w := .look) hq' g') (.refl _))⟩
  | failed e =>
    obtain ⟨q, hq, readies⟩ := tell_readies hw
    obtain ⟨q', hq', halts⟩ := readies.halts (List.getElem?_eq_some_iff.1 hw).1 hc
    have he : p.windUp i retries = q' := by
      simp only [windUp, hw, hq, Option.bind_some, hq', Option.getD_some]
    rw [he]
    exact ⟨halts, _, .cons (Scene.step_worker (w := .tell) hq g)
      (.cons (Scene.step_worker (w := .look) hq' _) (.refl _))⟩

/-- The first `k` workers of `q` have stopped; its queue and its stage are those of `p`. -/
structure Rests (p : Pool) (k : Nat) (q : Pool) : Prop where
  stopped : ∀ i w, i < k → q.workers[i]? = some w → w.phase = .stopped
  length : q.workers.length = p.workers.length
  queue : q.queue = p.queue
  stage : q.stage = p.stage

theorem Rests.halts {k : Nat} {q' : Pool} (h : Rests p k q) (halts : Halts q k q') :
    Rests p (k + 1) q' := by
  obtain ⟨⟨c, hworkers⟩, hqueue, hstage⟩ := halts
  refine ⟨?_, ?_, hqueue.trans h.queue, hstage.trans h.stage⟩
  · intro i w hi hw
    rw [hworkers] at hw
    by_cases hik : k = i
    · subst hik
      have hlt : k < q.workers.length := by simpa using (List.getElem?_eq_some_iff.1 hw).1
      rw [List.getElem?_set_self hlt] at hw
      cases hw
      rfl
    · rw [List.getElem?_set_ne hik] at hw
      exact h.stopped i w (by omega) hw
  · rw [hworkers, List.length_set]
    exact h.length

theorem windUp_range_leads (hc : p.queue.cancelled = true) (g : Log) (retries : Nat) {k : Nat}
    (hk : k ≤ p.workers.length) :
    Rests p k ((List.range k).foldl (fun p i => p.windUp i retries) p) ∧
      ∃ g', Scene.Leads ⟨p, g⟩ ⟨(List.range k).foldl (fun p i => p.windUp i retries) p, g'⟩ := by
  induction k with
  | zero =>
    refine ⟨⟨?_, rfl, rfl, rfl⟩, g, .refl _⟩
    intro i w hi
    omega
  | succ k ih =>
    obtain ⟨rests, g', before⟩ := ih (by omega)
    rw [List.range_succ, List.foldl_append]
    have hlt : k < ((List.range k).foldl (fun p i => p.windUp i retries) p).workers.length := by
      rw [rests.length]
      omega
    obtain ⟨halts, g'', last⟩ :=
      windUp_leads (List.getElem?_eq_getElem hlt) (by rw [rests.queue]; exact hc) g' retries
    exact ⟨rests.halts halts, g'', before.trans last⟩

theorem windUpAll_leads (hc : p.queue.cancelled = true) (g : Log) (retries : Nat) :
    Rests p p.workers.length (p.windUpAll retries) ∧
      ∃ g', Scene.Leads ⟨p, g⟩ ⟨p.windUpAll retries, g'⟩ :=
  windUp_range_leads hc g retries (Nat.le_refl _)

theorem Rests.all (h : Rests p p.workers.length q) : q.Stopped := by
  intro w hw
  obtain ⟨i, hi, rfl⟩ := List.mem_iff_getElem.1 hw
  exact h.stopped i _ (h.length ▸ hi) (List.getElem?_eq_getElem hi)

/-- From any state between calls a close returns, and what it does is a run of moves. -/
theorem close_leads (hc : p.closing = false) (g : Log) :
    ∃ g', Scene.Leads ⟨p, g⟩ ⟨p.close, g'⟩ := by
  by_cases hs : p.stage = .shutDown
  · have he : p.close = p := by rw [close, if_pos hs]
    rw [he]
    exact ⟨g, .refl _⟩
  · have first : Scene.step ⟨p, g⟩ (.call .cancel) = some ⟨p.cancel, g⟩ := by
      simp [Scene.step, move, hc, after, hs, Log.after, Log.afterCall]
    obtain ⟨rests, g', wound⟩ := windUpAll_leads (p := p.cancel) rfl g p.server.firingsLeft
    have hclosing : (p.cancel.windUpAll p.server.firingsLeft).closing = true := by
      rw [closing, rests.queue, rests.stage]
      simp [cancel, WorkQueue.cancel, hs]
    have hstopped : (p.cancel.windUpAll p.server.firingsLeft).workers.all
        (·.phase.isStopped) = true := by
      rw [List.all_eq_true]
      intro w hw
      rw [rests.all w hw]
      rfl
    have last : Scene.step ⟨p.cancel.windUpAll p.server.firingsLeft, g'⟩ .release =
        some ⟨p.close, g'⟩ := by
      rw [close, if_neg hs]
      simp [Scene.step, move, hclosing, hstopped, Log.after]
    exact ⟨g', .cons first (wound.trans (.cons last (.refl _)))⟩

end Pool

/-- A pool that is shut down refuses a job, and the slot for its result breaks at once. -/
theorem Orderly.submit_shutDown (h : Orderly o start p g) (hs : p.stage = .shutDown) (t : Task) :
    (p.submit t).2.board.slot? t.kind (p.submit t).1 = some .broken ∧
      (p.submit t).2.stage = .shutDown := by
  have hc := (h.ended hs).1
  obtain ⟨dropped, ledger, _⟩ := h.books
  have new := ledger.admits_awaited t
  have he : (p.submit t).2 =
      ({ p with board := (p.board.add t.kind .pending).2 } : Pool).enqueue
        ⟨t, some (p.board.slots t.kind).length⟩ := rfl
  rw [he, Pool.enqueue_refused (p := { p with board := (p.board.add t.kind .pending).2 }) _ hc]
  exact ⟨Job.drop_broken new.awaits _ rfl, hs⟩

theorem Pool.Aside.shutDown (h : Pool.Aside act p p') (hs : p.stage = .shutDown) :
    p'.stage = .shutDown ∧ (g.dealt (.caller act)).accepted = g.accepted ∧
      (g.dealt (.caller act)).ran = g.ran := by
  obtain ⟨server, direct, turn, fatals, callers, _, rfl⟩ := h
  exact ⟨hs, rfl, g.ran_dealt rfl⟩

theorem Orderly.call_shutDown (h : Orderly o start p g) (hs : p.stage = .shutDown)
    (c : PoolCall) : (p.after c).stage = .shutDown ∧
      (g.afterCall p c).accepted = g.accepted ∧ (g.afterCall p c).ran = g.ran := by
  have hc := (h.ended hs).1
  cases c with
  | connect =>
    rcases p.connect_cases with he | ⟨hstage, _⟩
    · rw [Pool.after, he]
      exact (Pool.Aside.refl _ p).shutDown hs
    · rw [hs] at hstage
      cases hstage
  | prepare =>
    rcases p.prepare_cases with he | ⟨hstage, _⟩
    · rw [Pool.after, he]
      exact (Pool.Aside.refl _ p).shutDown hs
    · rw [hs] at hstage
      cases hstage
  | submit t =>
    simp only [Log.afterCall, hc, Log.offered, if_true]
    exact ⟨(h.submit_shutDown hs t).2, trivial, rfl⟩
  | submitUnawaited t =>
    simp only [Log.afterCall, hc, Log.offered, if_true, Pool.after, Pool.submitUnawaited,
      Pool.enqueue_refused _ hc]
    exact ⟨hs, trivial, rfl⟩
  | keepAlive => exact ⟨hs, rfl, rfl⟩
  | execute sql => exact (p.enter_aside (Link.execute sql)).shutDown hs
  | executeBound s => exact (p.enter_aside (Link.executeBound s)).shutDown hs
  | query sql => exact (p.enter_aside (Link.query sql)).shutDown hs
  | queryBound s => exact (p.enter_aside (Link.queryBound s)).shutDown hs
  | commit t retries => exact (p.enter_aside _).shutDown hs
  | escape text => exact (p.escape_aside text).shutDown hs
  | cancel =>
    simp only [Pool.after, if_pos hs]
    exact ⟨hs, rfl, rfl⟩

theorem Orderly.resume_shutDown (h : Orderly o start p g) (hs : p.stage = .shutDown) {k : Nat}
    (hp : p.resume k = some p') : p'.stage = .shutDown ∧
      (g.afterResume p k).accepted = g.accepted ∧ (g.afterResume p k).ran = g.ran := by
  have hc := (h.ended hs).1
  have stays {q : Pool} (hn : p.Noted q) : q.stage = .shutDown := by
    obtain ⟨_, _, rfl⟩ := hn
    exact hs
  cases Pool.resume_some hp with
  | returned at_end =>
    simp only [Log.afterResume, at_end]
    exact ⟨stays ((p.report_noted _).dismiss k), trivial, trivial⟩
  | pinged before next =>
    simp only [Log.afterResume, before]
    exact ((p.called_aside _ _ Link.ping).noted ((Pool.Noted.refl _).setCaller k _)).shutDown hs
  | past_all before =>
    simp only [Log.afterResume, before]
    exact ⟨hs, rfl, g.ran_dealt rfl⟩
  | reported after =>
    simp only [Log.afterResume, after]
    exact ⟨stays ((p.report_noted _).setCaller k _), trivial, trivial⟩
  | left more =>
    simp only [Log.afterResume, more, hc, Log.offered, if_true, Pool.submitUnawaited,
      Pool.enqueue_refused _ hc]
    exact ⟨hs, trivial, rfl⟩
  | gone at_end =>
    simp only [Log.afterResume, at_end]
    exact ⟨hs, trivial, trivial⟩

/-- Nothing brings a pool back, and nothing runs on it any more. -/
theorem Orderly.move_shutDown (h : Orderly o start p g) (hs : p.stage = .shutDown) {m : Move}
    (hm : p.move m = some p') : p'.stage = .shutDown ∧
      (g.after p m).accepted = g.accepted ∧ (g.after p m).ran = g.ran := by
  have absent {w : Worker} {i : Nat} (hw : p.workers[i]? = some w) : False := by
    rw [h.idle (by rw [hs]; decide)] at hw
    cases hw
  cases m with
  | call c =>
    obtain ⟨_, rfl⟩ := Pool.call_some hm
    exact h.call_shutDown hs c
  | resume k => exact h.resume_shutDown hs hm
  | take k i =>
    cases hm
    obtain ⟨given, hg, _⟩ := g.took_eq k i (p.board.take k i).1
    rw [Log.after, hg]
    exact ⟨hs, rfl, rfl⟩
  | script d =>
    cases hm
    exact ⟨hs, rfl, g.ran_dealt rfl⟩
  | worker i step =>
    cases step with
    | look =>
      obtain ⟨c, hw, _⟩ := Pool.look_some hm
      exact (absent hw).elim
    | receive =>
      obtain ⟨c, j, queue, hw, _⟩ := Pool.receive_some hm
      exact (absent hw).elim
    | wake =>
      obtain ⟨c, hw, _⟩ := Pool.wake_some hm
      exact (absent hw).elim
    | confirm =>
      obtain ⟨c, j, hw, _⟩ := Pool.confirm_some hm
      exact (absent hw).elim
    | work retries =>
      obtain ⟨c, j, r, l, hw, _⟩ := Pool.work_some hm
      exact (absent hw).elim
    | tell =>
      obtain ⟨c, e, hw, _⟩ := Pool.tell_some hm
      exact (absent hw).elim
  | release => simp [Pool.move, Pool.closing, hs] at hm

theorem Orderly.run_shutDown {s s' : Scene} (h : Orderly o start s.pool s.log)
    (one : o.asyncThreads = 1) (hs : s.pool.stage = .shutDown) {ms : List Move}
    (hr : s.run ms = some s') : s'.pool.stage = .shutDown ∧
      s'.log.accepted = s.log.accepted ∧ s'.log.ran = s.log.ran := by
  induction ms generalizing s with
  | nil =>
    rw [Scene.run_nil hr]
    exact ⟨hs, rfl, rfl⟩
  | cons m ms ih =>
    obtain ⟨t, ht, hrest⟩ := Scene.run_cons hr
    obtain ⟨p, hp, rfl⟩ := Scene.step_some ht
    obtain ⟨hstage, haccepted, hran⟩ := h.move_shutDown hs hp
    obtain ⟨hstage', haccepted', hran'⟩ := ih (h.move one hp) hstage hrest
    exact ⟨hstage', haccepted'.trans haccepted, hran'.trans hran⟩

theorem Pool.close_stage (p : Pool) : p.close.stage = .shutDown := by
  unfold Pool.close
  split
  · assumption
  · rfl

/-- A pool with one worker can be closed at any time. Once it is shut down, the jobs that ran are
the first of those it accepted, in their order, and every slot is settled: with the result of its
job if that ran, and broken if not. This stays so, and later jobs are refused. -/
theorem concluded_by_close (name : String) (login : Login) (o : Options) (registry : Registry)
    (server : Server) (one : o.asyncThreads = 1) (ms : List Move) (s : Scene)
    (hr : (Scene.new name login o registry server).run ms = some s) :
    (s.pool.closing = false →
      s.pool.close.stage = .shutDown ∧ ∃ g, Scene.Leads s ⟨s.pool.close, g⟩) ∧
    (s.pool.stage = .shutDown →
      Concluded o.deadlockBudget server s.pool s.log ∧
      (∀ t, (s.pool.submit t).2.board.slot? t.kind (s.pool.submit t).1 = some .broken) ∧
      ∀ ms' s', s.run ms' = some s' → s'.pool.stage = .shutDown ∧ s'.pool.queueSize = 0 ∧
        s'.log.accepted = s.log.accepted ∧ s'.log.ran = s.log.ran) := by
  have h : Orderly o server s.pool s.log :=
    (orderly_new name login o registry server).run one hr
  constructor
  · intro hc
    exact ⟨s.pool.close_stage, Pool.close_leads hc s.log⟩
  · intro hs
    refine ⟨h.concluded hs, fun t => (h.submit_shutDown hs t).1, ?_⟩
    intro ms' s' hr'
    obtain ⟨hstage, haccepted, hran⟩ := h.run_shutDown one hs hr'
    exact ⟨hstage, ((h.run one hr').concluded hstage).empty, haccepted, hran⟩

/-- A pool on a server that fails one statement. -/
def racingPool : Scene :=
  .new "world" ⟨"localhost", "3306", "trinity", "trinity", "world", false⟩ {} {}
    { rules := [⟨"guid = 1", 1054, some 1⟩] }

/-- One job before the pool is opened, which ends fatally, one that runs, one that is received as
the queue ends and one that is still queued then. -/
def racing : List Move :=
  [.call (.submit (.execute "DELETE guid = 1")), .call .connect, .call .prepare,
    .worker 0 .look, .worker 0 .receive, .worker 0 .confirm, .worker 0 (.work 0), .worker 0 .tell,
    .call (.submit (.execute "DELETE guid = 2")), .call (.submit (.execute "DELETE guid = 3")),
    .worker 0 .look, .worker 0 .receive, .worker 0 .confirm, .worker 0 (.work 0),
    .call (.submit (.query "SELECT 4")), .worker 0 .look, .worker 0 .receive,
    .call .cancel, .worker 0 .confirm, .release]

theorem concluded_by_close_racing : ∃ s, racingPool.run racing = some s ∧
    s.pool.stage = .shutDown ∧ s.log.accepted.length = 4 ∧ s.log.ran.length = 2 ∧
    s.pool.server.executed = ["DELETE guid = 2"] ∧
    Concluded ({} : Options).deadlockBudget racingPool.pool.server s.pool s.log := by
  obtain ⟨s, hr⟩ : ∃ s, racingPool.run racing = some s :=
    Option.isSome_iff_exists.1 (by decide +kernel)
  have hs : (racingPool.run racing).map (·.pool.stage) = some .shutDown := by decide +kernel
  have haccepted : (racingPool.run racing).map (·.log.accepted.length) = some 4 := by
    decide +kernel
  have hran : (racingPool.run racing).map (·.log.ran.length) = some 2 := by decide +kernel
  have hexecuted : (racingPool.run racing).map (·.pool.server.executed) =
      some ["DELETE guid = 2"] := by decide +kernel
  rw [hr] at hs haccepted hran hexecuted
  have stage : s.pool.stage = .shutDown := Option.some.inj hs
  have concluded := (concluded_by_close _ _ _ _ _ rfl racing s hr).2 stage
  exact ⟨s, hr, stage, Option.some.inj haccepted, Option.some.inj hran, Option.some.inj hexecuted,
    concluded.1⟩

end QueryPool
