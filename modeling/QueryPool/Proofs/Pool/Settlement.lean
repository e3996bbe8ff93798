import QueryPool.Proofs.Pool.Scene

namespace QueryPool

variable {o : Options} {start : Server} {p p' : Pool} {g : Log} {act : Link → Link}
  {i : Nat} {w w' : Worker}

namespace Pool

def Stopped (p : Pool) : Prop := ∀ w ∈ p.workers, w.phase = .stopped

theorem held_of_stopped (h : p.Stopped) : p.held = [] := by
  apply List.filterMap_eq_nil_iff.2
  intro w hw
  rw [h w hw]
  rfl

theorem held_of_one (one : p.workers = [w]) : p.held = w.phase.job?.toList := by
  rw [held, one]
  cases hj : w.phase.job? <;> simp [hj]

theorem stopped_of_all (h : p.workers.all (·.phase.isStopped) = true) : p.Stopped := by
  intro w hw
  have hs := List.all_eq_true.1 h w hw
  cases hp : w.phase with
  | stopped => rfl
  | ready | waiting | holding | working | failed => simp [hp, Phase.isStopped] at hs

theorem only_worker (few : p.workers.length ≤ 1) (hw : p.workers[i]? = some w) :
    i = 0 ∧ p.workers = [w] := by
  obtain ⟨hi, rfl⟩ := List.getElem?_eq_some_iff.1 hw
  have h0 : i = 0 := by omega
  subst h0
  refine ⟨rfl, List.ext_getElem (by simp; omega) ?_⟩
  intro n hn hn'
  have hzero : n = 0 := by simpa using hn'
  subst hzero
  rfl

end Pool

/-- What holds of a pool with one worker between any two moves. -/
structure Orderly (o : Options) (start : Server) (p : Pool) (g : Log) : Prop where
  options : p.options = o
  few : p.workers.length ≤ 1
  idle : p.stage ≠ .running → p.workers = []
  unopened : p.stage = .closed → p.spare = []
  spare : p.stage = .opened → p.spare.length ≤ 1
  ended : p.stage = .shutDown → p.queue.cancelled = true ∧ p.queue.items = []
  /-- once a job was dropped no other runs -/
  books : ∃ dropped, Ledger g dropped (p.held ++ p.queue.items) p.board ∧
    (dropped = [] ∨ p.queue.cancelled = true ∧ p.Stopped)
  driven : Driven o.deadlockBudget start g.dealings p.server

namespace Orderly

theorem aside (h : Orderly o start p g) (ha : Pool.Aside act p p') :
    Orderly o start p' (g.dealt (.caller act)) := by
  obtain ⟨server, direct, turn, fatals, callers, acts, rfl⟩ := ha
  obtain ⟨dropped, ledger, hd⟩ := h.books
  exact ⟨h.options, h.few, h.idle, h.unopened, h.spare, h.ended,
    ⟨dropped, ledger.dealt rfl, hd⟩, h.driven.caller acts⟩

theorem noted (h : Orderly o start p g) (hn : Pool.Noted p p') : Orderly o start p' g := by
  obtain ⟨fatals, callers, rfl⟩ := hn
  exact ⟨h.options, h.few, h.idle, h.unopened, h.spare, h.ended, h.books, h.driven⟩

theorem script (h : Orderly o start p g) (d : Direction) :
    Orderly o start { p with server := p.server.follow d } (g.dealt (.script d)) := by
  obtain ⟨dropped, ledger, hd⟩ := h.books
  exact ⟨h.options, h.few, h.idle, h.unopened, h.spare, h.ended,
    ⟨dropped, ledger.dealt rfl, hd⟩, h.driven.script d⟩

theorem take (h : Orderly o start p g) (k : Kind) (i : Nat) :
    Orderly o start { p with board := (p.board.take k i).2 }
      (g.took k i (p.board.take k i).1) := by
  obtain ⟨dropped, ledger, hd⟩ := h.books
  obtain ⟨given, hg, _⟩ := g.took_eq k i (p.board.take k i).1
  have driven : Driven o.deadlockBudget start (g.took k i (p.board.take k i).1).dealings
      p.server := by
    rw [hg]
    exact h.driven
  exact ⟨h.options, h.few, h.idle, h.unopened, h.spare, h.ended,
    ⟨dropped, ledger.take k i, hd⟩, driven⟩

/-- A new job joins the line or is dropped at once. -/
theorem enqueue (h : Orderly o start p g) {j : Job} {board : Board}
    (new : Admits g.jobs p.board j board) :
    Orderly o start (({ p with board } : Pool).enqueue j) (g.offered p.queue.cancelled [j]) := by
  obtain ⟨dropped, ledger, hd⟩ := h.books
  cases hc : p.queue.cancelled with
  | true =>
    rw [Pool.enqueue_refused (p := { p with board }) j hc]
    exact ⟨h.options, h.few, h.idle, h.unopened, h.spare, h.ended,
      ⟨dropped, ledger.refuse new, hd⟩, h.driven⟩
  | false =>
    have hnone : dropped = [] := by
      rcases hd with hd | ⟨hd, _⟩
      · exact hd
      · rw [hc] at hd
        cases hd
    rw [Pool.enqueue_accepted (p := { p with board }) j hc]
    refine ⟨h.options, h.few, h.idle, h.unopened, h.spare, ?_, ?_, h.driven⟩
    · intro hs
      rw [(h.ended hs).1] at hc
      cases hc
    · refine ⟨dropped, ?_, .inl hnone⟩
      have hnew := ledger.accept new
      rw [List.append_assoc] at hnew
      exact hnew

theorem submit (h : Orderly o start p g) (t : Task) : Orderly o start (p.submit t).2
    (g.offered p.queue.cancelled [⟨t, some (p.submit t).1⟩]) := by
  obtain ⟨dropped, ledger, _⟩ := h.books
  exact h.enqueue (ledger.admits_awaited t)

theorem submitUnawaited (h : Orderly o start p g) (t : Task) :
    Orderly o start (p.submitUnawaited t) (g.offered p.queue.cancelled [⟨t, none⟩]) :=
  h.enqueue (admits_unawaited g.jobs p.board t)

theorem resume (h : Orderly o start p g) {k : Nat} (hp : p.resume k = some p') :
    Orderly o start p' (g.afterResume p k) := by
  cases Pool.resume_some hp with
  | returned at_end =>
    simp only [Log.afterResume, at_end]
    exact h.noted ((p.report_noted _).dismiss k)
  | pinged before next =>
    simp only [Log.afterResume, before]
    exact (h.aside (p.called_aside _ _ Link.ping)).noted ((Pool.Noted.refl _).setCaller k _)
  | past_all before =>
    simp only [Log.afterResume, before]
    exact (h.aside (.refl _ p)).noted ((Pool.Noted.refl p).setCaller k _)
  | reported after =>
    simp only [Log.afterResume, after]
    exact h.noted ((p.report_noted _).setCaller k _)
  | left more =>
    simp only [Log.afterResume, more]
    exact (h.submitUnawaited .ping).noted ((Pool.Noted.refl _).setCaller k _)
  | gone at_end =>
    simp only [Log.afterResume, at_end]
    exact h.noted ((Pool.Noted.refl p).dismiss k)

theorem cancel (h : Orderly o start p g) (running : p.stage ≠ .shutDown) :
    Orderly o start p.cancel g := by
  obtain ⟨dropped, ledger, hd⟩ := h.books
  refine ⟨h.options, h.few, h.idle, h.unopened, h.spare, ?_, ?_, h.driven⟩
  · intro hs
    exact absurd hs running
  · exact ⟨dropped, ledger, hd.imp id fun hd => ⟨rfl, hd.2⟩⟩

/-- What is left in the queue when every worker has stopped is dropped. -/
theorem release (h : Orderly o start p g) (hc : p.queue.cancelled = true) (hs : p.Stopped) :
    Orderly o start p.release g := by
  obtain ⟨dropped, ledger, _⟩ := h.books
  rw [Pool.held_of_stopped hs, List.nil_append] at ledger
  refine ⟨h.options, by simp [Pool.release], fun _ => rfl, fun _ => rfl, ?_,
    fun _ => ⟨hc, rfl⟩, ?_, h.driven⟩
  · intro _
    simp [Pool.release]
  · refine ⟨dropped ++ p.queue.items, ledger.lose_all, .inr ⟨hc, ?_⟩⟩
    intro w hw
    cases hw

theorem close_idle (h : Orderly o start p g) (running : p.stage ≠ .shutDown)
    (idle : p.workers = []) : Orderly o start p.close g := by
  rw [Pool.close_idle running idle]
  refine (h.cancel running).release rfl ?_
  intro w hw
  have hmem : w ∈ p.workers := hw
  rw [idle] at hmem
  cases hmem

theorem connect (h : Orderly o start p g) (one : o.asyncThreads = 1) :
    Orderly o start p.connect.2 (g.dealt (.caller fun l => l.openSession.2)) := by
  rcases p.connect_cases with he | ⟨hstage, server, spare, direct, acts, hlen, he | he⟩
  · rw [he]
    exact h.aside (.refl _ p)
  · obtain ⟨dropped, ledger, hd⟩ := h.books
    have hspare : spare.length ≤ 1 := by
      rw [h.unopened hstage, h.options, one] at hlen
      simpa using hlen
    have idle : p.workers = [] := h.idle (by rw [hstage]; decide)
    rw [he]
    refine ⟨h.options, h.few, fun _ => idle, ?_, fun _ => hspare, ?_,
      ⟨dropped, ledger.dealt rfl, hd⟩, h.driven.caller acts⟩
    · intro hs
      cases hs
    · intro hs
      cases hs
  · -- a close lets go of what was opened on the way, as if it had not been
    have ha : Pool.Aside (fun l => l.openSession.2) p { p with server, direct } :=
      ⟨server, direct, p.turn, p.fatals, p.callers, acts, rfl⟩
    have idle : p.workers = [] := h.idle (by rw [hstage]; decide)
    have running : p.stage ≠ .shutDown := by rw [hstage]; decide
    have hclose := (h.aside ha).close_idle running idle
    rw [Pool.close_idle (p := { p with server, direct }) running idle] at hclose
    rw [he, Pool.close_idle (p := { p with server, spare, direct }) running idle]
    exact hclose

theorem prepare (h : Orderly o start p g) (hc : p.closing = false) :
    Orderly o start p.prepare.2 (g.dealt (.caller fun l => l.prepareStatements.2)) := by
  rcases p.prepare_cases with he | ⟨hstage, server, acts, ⟨direct, spare, hlen, he⟩ | he⟩
  · rw [he]
    exact h.aside (.refl _ p)
  · obtain ⟨dropped, ledger, hd⟩ := h.books
    -- jobs are dropped only at the end of the queue, and then nobody prepares
    have hopen : p.queue.cancelled = false := by
      simpa [Pool.closing, hstage] using hc
    have hnone : dropped = [] := by
      rcases hd with hd | ⟨hd, _⟩
      · exact hd
      · rw [hopen] at hd
        cases hd
    have idle : p.held = [] := by
      rw [Pool.held, h.idle (by rw [hstage]; decide)]
      rfl
    rw [he]
    refine ⟨h.options, ?_, ?_, fun _ => rfl, ?_, ?_, ?_, h.driven.caller acts⟩
    · rw [List.length_map, hlen]
      exact h.spare hstage
    · intro hs
      exact absurd rfl hs
    · intro hs
      cases hs
    · intro hs
      cases hs
    · refine ⟨dropped, ?_, .inl hnone⟩
      rw [idle] at ledger
      have hheld : (spare.map fun c => ({ conn := c } : Worker)).filterMap (·.phase.job?) = [] := by
        apply List.filterMap_eq_nil_iff.2
        intro w hw
        obtain ⟨c, _, rfl⟩ := List.mem_map.1 hw
        rfl
      simp only [Pool.held, hheld]
      exact ledger.dealt rfl
  · have ha : Pool.Aside (fun l => l.prepareStatements.2) p { p with server } :=
      ⟨server, p.direct, p.turn, p.fatals, p.callers, acts, rfl⟩
    have idle : p.workers = [] := h.idle (by rw [hstage]; decide)
    have running : p.stage ≠ .shutDown := by rw [hstage]; decide
    rw [he]
    exact (h.aside ha).close_idle running idle

/-- A worker that has not stopped is alone, in a running pool that has dropped nothing yet. -/
theorem serving (h : Orderly o start p g) (hw : p.workers[i]? = some w)
    (live : w.phase ≠ .stopped) : i = 0 ∧ p.workers = [w] ∧ p.stage = .running ∧
      Ledger g [] (w.phase.job?.toList ++ p.queue.items) p.board := by
  obtain ⟨hi, one⟩ := Pool.only_worker h.few hw
  have running : p.stage = .running := by
    apply Decidable.byContradiction
    intro hs
    rw [h.idle hs] at one
    cases one
  obtain ⟨dropped, ledger, hd⟩ := h.books
  have hnone : dropped = [] := by
    -- the only worker stops with the first job that is dropped
    rcases hd with hd | ⟨_, hd⟩
    · exact hd
    · exact absurd (hd w (by rw [one]; simp)) live
  rw [hnone, Pool.held_of_one one] at ledger
  exact ⟨hi, one, running, ledger⟩

theorem of_running {dropped : List Job} (options : p.options = o)
    (one : p.workers = [w]) (running : p.stage = .running)
    (ledger : Ledger g dropped (w.phase.job?.toList ++ p.queue.items) p.board)
    (hd : dropped = [] ∨ p.queue.cancelled = true ∧ w.phase = .stopped)
    (driven : Driven o.deadlockBudget start g.dealings p.server) : Orderly o start p g := by
  refine ⟨options, by rw [one]; exact Nat.le_refl 1, fun hs => absurd running hs, ?_, ?_, ?_, ?_, driven⟩
  · intro hs
    rw [running] at hs
    cases hs
  · intro hs
    rw [running] at hs
    cases hs
  · intro hs
    rw [running] at hs
    cases hs
  · refine ⟨dropped, by rwa [Pool.held_of_one one], hd.imp id ?_⟩
    rintro ⟨hc, hstopped⟩
    refine ⟨hc, ?_⟩
    intro w' hw'
    rw [one] at hw'
    rw [List.mem_singleton.1 hw']
    exact hstopped

/-- A worker that only changes its mind keeps its job. -/
theorem setWorker (h : Orderly o start p g) (hw : p.workers[i]? = some w)
    (live : w.phase ≠ .stopped) (same : w'.phase.job? = w.phase.job?) :
    Orderly o start (p.setWorker i w') g := by
  obtain ⟨rfl, one, running, ledger⟩ := h.serving hw live
  have hw' : (p.setWorker 0 w').workers = [w'] := by simp [Pool.setWorker, one]
  rw [← same] at ledger
  exact of_running h.options hw' running ledger (.inl rfl) h.driven

theorem look (h : Orderly o start p g) (hp : p.look i = some p') : Orderly o start p' g := by
  obtain ⟨c, hw, ⟨_, rfl⟩ | ⟨_, rfl⟩⟩ := Pool.look_some hp
  · exact h.setWorker hw (by simp) rfl
  · exact h.setWorker hw (by simp) rfl

theorem wake (h : Orderly o start p g) (hp : p.wake i = some p') : Orderly o start p' g := by
  obtain ⟨c, hw, _, rfl⟩ := Pool.wake_some hp
  exact h.setWorker hw (by simp) rfl

/-- The job that a worker receives was the first in the queue and goes on being the first. -/
theorem receive (h : Orderly o start p g) (hp : p.receive i = some p') :
    Orderly o start p' g := by
  obtain ⟨c, j, queue, hw, hitems, _, rfl⟩ := Pool.receive_some hp
  obtain ⟨rfl, one, running, ledger⟩ := h.serving hw (by simp)
  have hw' : (({ p with queue } : Pool).setWorker 0 ⟨c, .holding j⟩).workers =
      [⟨c, .holding j⟩] := by simp [Pool.setWorker, one]
  rw [hitems] at ledger
  exact of_running h.options hw' running ledger (.inl rfl) h.driven

/-- A worker that drops its job stops with it, so that no later job runs. -/
theorem confirm (h : Orderly o start p g) (hp : p.confirm i = some p') :
    Orderly o start p' g := by
  obtain ⟨c, j, hw, ⟨hc, rfl⟩ | ⟨_, rfl⟩⟩ := Pool.confirm_some hp
  · obtain ⟨rfl, one, running, ledger⟩ := h.serving hw (by simp)
    have hw' : (({ p with board := j.drop p.board } : Pool).setWorker 0
        ⟨c.shutDown, .stopped⟩).workers = [⟨c.shutDown, .stopped⟩] := by
      simp [Pool.setWorker, one]
    exact of_running h.options hw' running ledger.lose (.inr ⟨hc, rfl⟩) h.driven
  · exact h.setWorker hw (by simp) rfl

theorem work (h : Orderly o start p g) {retries : Nat} (hp : p.work i retries = some p') :
    Orderly o start p' (g.afterStep p i (.work retries)) := by
  obtain ⟨c, j, r, l, hw, hrun, rfl⟩ := Pool.work_some hp
  obtain ⟨rfl, one, running, ledger⟩ := h.serving hw (by simp)
  have hlog : g.afterStep p 0 (.work retries) = g.dealt (.worker ⟨j, r⟩) := by
    simp only [Log.afterStep, hw, hrun]
  have fatal : ∀ e, r = .error e → e.isFatal = true := by
    intro e he
    apply Task.run_error (t := j.task)
    rw [hrun]
    exact he
  rw [h.options] at hrun
  have done : (Phase.after r).job? = none := by cases r <;> rfl
  have ledger' := ledger.finish r fatal
  rw [hlog]
  refine of_running (w := ⟨l.conn, .after r⟩) h.options ?_ running ?_ (.inl rfl)
    (h.driven.worker hrun)
  · simp [Pool.setWorker, one]
  · rw [done]
    exact ledger'

theorem tell (h : Orderly o start p g) (hp : p.tell i = some p') : Orderly o start p' g := by
  obtain ⟨c, e, hw, rfl⟩ := Pool.tell_some hp
  exact (h.noted ⟨p.fatals ++ [e], p.callers, rfl⟩).setWorker hw (by simp) rfl

theorem call (h : Orderly o start p g) (one : o.asyncThreads = 1) (hc : p.closing = false)
    (c : PoolCall) : Orderly o start (p.after c) (g.afterCall p c) := by
  cases c with
  | connect => exact h.connect one
  | prepare => exact h.prepare hc
  | submit t => exact h.submit t
  | submitUnawaited t => exact h.submitUnawaited t
  | keepAlive => exact h.noted (p.join_noted _)
  | execute sql => exact h.aside (p.enter_aside (Link.execute sql))
  | executeBound s => exact h.aside (p.enter_aside (Link.executeBound s))
  | query sql => exact h.aside (p.enter_aside (Link.query sql))
  | queryBound s => exact h.aside (p.enter_aside (Link.queryBound s))
  | commit t retries => exact h.aside (p.enter_aside _)
  | escape text => exact h.aside (p.escape_aside text)
  | cancel =>
    simp only [Pool.after, Log.afterCall]
    split
    · exact h
    · rename_i running
      exact h.cancel running

theorem move (h : Orderly o start p g) (one : o.asyncThreads = 1) {m : Move}
    (hm : p.move m = some p') : Orderly o start p' (g.after p m) := by
  cases m with
  | call c =>
    obtain ⟨hc, rfl⟩ := Pool.call_some hm
    exact h.call one hc c
  | resume k => exact h.resume hm
  | take k i =>
    cases hm
    exact h.take k i
  | script d =>
    cases hm
    exact h.script d
  | worker i step =>
    cases step with
    | look => exact h.look hm
    | receive => exact h.receive hm
    | wake => exact h.wake hm
    | confirm => exact h.confirm hm
    | work retries => exact h.work hm
    | tell => exact h.tell hm
  | release =>
    obtain ⟨ended, stopped, rfl⟩ := Pool.release_some hm
    exact h.release ended (Pool.stopped_of_all stopped)

theorem run {s s' : Scene} (h : Orderly o start s.pool s.log) (one : o.asyncThreads = 1)
    {ms : List Move} (hr : s.run ms = some s') : Orderly o start s'.pool s'.log :=
  Scene.run_keeps (P := fun s => Orderly o start s.pool s.log) (fun _ _ _ h hm => h.move one hm) h hr

end Orderly

/-- A new pool of which nothing is known yet. -/
def Scene.new (name : String) (login : Login) (o : Options) (registry : Registry)
    (server : Server) : Scene := ⟨{ name, login, options := o, registry, server }, {}⟩

theorem orderly_new (name : String) (login : Login) (o : Options) (registry : Registry)
    (server : Server) : Orderly o server (Scene.new name login o registry server).pool {} := by
  refine ⟨rfl, by simp [Scene.new], fun _ => rfl, fun _ => rfl, ?_, ?_, ⟨[], ?_, .inl rfl⟩,
    .start⟩
  · intro hs
    cases hs
  · intro hs
    cases hs
  · refine ⟨rfl, .nil, ?_, ?_, ?_, ?_, ?_⟩
    · intro k i hsome
      simp [Scene.new, Board.slot?, Board.empty] at hsome
    all_goals
      intro x hx
      cases hx

/-- How a pool that is shut down stands to the jobs it was given: those that ran are the first of
those it accepted, each with its own result, and every other slot is broken. -/
structure Concluded (limit : Duration) (start : Server) (p : Pool) (g : Log) : Prop where
  order : ∃ rest, g.accepted = g.ran.map Ran.job ++ rest ∧ ∀ j ∈ rest, j.Broken p.board
  ran : ∀ x ∈ g.ran, x.Settled g p.board
  refused : ∀ j ∈ g.refused, j.Broken p.board
  apart : g.jobs.Pairwise Job.Apart
  settled : ∀ k i, p.board.slot? k i ≠ some .pending
  driven : Driven limit start g.dealings p.server
  empty : p.queueSize = 0

theorem Orderly.concluded (h : Orderly o start p g) (hs : p.stage = .shutDown) :
    Concluded o.deadlockBudget start p g := by
  obtain ⟨dropped, ledger, _⟩ := h.books
  have hitems : p.queue.items = [] := (h.ended hs).2
  have hheld : p.held = [] := by
    rw [Pool.held, h.idle (by rw [hs]; decide)]
    rfl
  rw [hitems, hheld, List.append_nil] at ledger
  refine ⟨⟨dropped, by simpa using ledger.order, ledger.dropped⟩, ledger.ran, ledger.refused,
    ledger.apart, ?_, h.driven, by simp [Pool.queueSize, WorkQueue.size, hitems]⟩
  -- a slot that is pending would belong to a job that is in none of the books
  intro k i hpending
  obtain ⟨j, hj, rfl, hi⟩ := ledger.owned k i (by rw [hpending]; rfl)
  rw [Log.jobs, ledger.order] at hj
  simp only [List.append_nil, List.mem_append, List.mem_map] at hj
  rcases hj with (⟨x, hx, rfl⟩ | hj) | hj
  · have hsettled := ledger.ran x hx
    cases hresult : x.result with
    | error e =>
      rw [hsettled.broken i e hi hresult] at hpending
      cases hpending
    | ok a =>
      rcases hsettled.ready i a hi hresult with hready | ⟨htaken, _⟩
      · rw [hready] at hpending
        cases hpending
      · rw [htaken] at hpending
        cases hpending
  · rw [ledger.dropped j hj i hi] at hpending
    cases hpending
  · rw [ledger.refused j hj i hi] at hpending
    cases hpending

end QueryPool
