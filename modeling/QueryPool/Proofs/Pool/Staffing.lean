import QueryPool.Proofs.Pool.Closing
import QueryPool.Proofs.Pool.Opening

namespace QueryPool

namespace Pool

open Link (Outcome Alike)
open Connection (Serves)

variable {α : Type} {p p' : Pool} {c : Connection} {f : Link → Outcome α} {i : Nat} {w w' : Worker}

/-- The connections and workers of a pool by its stage, between two calls. -/
structure Staffed (p : Pool) : Prop where
  closed : p.stage = .closed → p.spare = [] ∧ p.direct = [] ∧ p.workers = []
  opened : p.stage = .opened →
    p.Crew .async nothing p.spare ∧ p.Crew .sync nothing p.direct ∧ p.workers = []
  running : p.stage = .running → p.spare = [] ∧
    p.Crew .async (p.meant .async) (p.workers.map (·.conn)) ∧
    p.Crew .sync (p.meant .sync) p.direct
  shutDown : p.stage = .shutDown → p.spare = [] ∧ p.direct = [] ∧ p.workers = [] ∧
    p.queue.cancelled = true ∧ p.queue.items = []

/-- A worker has its connection, or it has stopped because the queue has ended. -/
def Mans (p : Pool) (w : Worker) : Prop :=
  w.phase = .stopped ∧ p.queue.cancelled = true ∨
    Serves (p.setup .async) (p.meant .async) w.conn

/-- The same at any time: while a pool is closed, its workers stop one after the other. -/
structure Manned (p : Pool) : Prop where
  closed : p.stage = .closed → p.spare = [] ∧ p.direct = [] ∧ p.workers = []
  opened : p.stage = .opened →
    p.Crew .async nothing p.spare ∧ p.Crew .sync nothing p.direct ∧ p.workers = []
  running : p.stage = .running → p.spare = [] ∧
    p.workers.length = p.options.threads .async ∧ (∀ w ∈ p.workers, p.Mans w) ∧
    p.Crew .sync (p.meant .sync) p.direct
  shutDown : p.stage = .shutDown → p.spare = [] ∧ p.direct = [] ∧ p.workers = [] ∧
    p.queue.cancelled = true ∧ p.queue.items = []
  valid : p.stage = .opened ∨ p.stage = .running → p.options.validate = .ok ()

namespace Manned

theorem gone (h : p.spare = [] ∧ p.direct = [] ∧ p.workers = [] ∧ p.queue.cancelled = true ∧
    p.queue.items = []) (hs : p.stage = .shutDown) : Manned p where
  closed hc := by
    rw [hs] at hc
    cases hc
  opened ho := by
    rw [hs] at ho
    cases ho
  running hr := by
    rw [hs] at hr
    cases hr
  shutDown _ := h
  valid hv := by
    rw [hs] at hv
    rcases hv with hv | hv <;> cases hv

theorem idle (h : Manned p) (hs : p.stage ≠ .running) : p.workers = [] := by
  cases hstage : p.stage with
  | closed => exact (h.closed hstage).2.2
  | opened => exact (h.opened hstage).2.2
  | running => exact absurd hstage hs
  | shutDown => exact (h.shutDown hstage).2.2.1

/-- Only a running pool has a worker. -/
theorem serving (h : Manned p) (hw : p.workers[i]? = some w) : p.stage = .running := by
  apply Decidable.byContradiction
  intro hs
  rw [h.idle hs] at hw
  cases hw

theorem tends (h : Manned p) (ht : ∀ known, Tends (Serves (p.setup .sync) known) p p') :
    Manned p' := by
  obtain ⟨server, direct, turn, fatals, callers, rfl, hlen, hnothing⟩ := ht nothing
  obtain ⟨_, direct', _, _, _, he, _, hmeant⟩ := ht (p.meant .sync)
  obtain rfl : direct = direct' := congrArg Pool.direct he
  refine ⟨?_, ?_, ?_, ?_, h.valid⟩
  · intro hs
    obtain ⟨hspare, hdirect, hworkers⟩ := h.closed hs
    rw [hdirect] at hlen
    exact ⟨hspare, List.eq_nil_of_length_eq_zero hlen, hworkers⟩
  · intro hs
    obtain ⟨async, sync, hworkers⟩ := h.opened hs
    exact ⟨async, ⟨hlen.trans sync.1, hnothing sync.2⟩, hworkers⟩
  · intro hs
    obtain ⟨hspare, hcount, hmans, sync⟩ := h.running hs
    exact ⟨hspare, hcount, hmans, ⟨hlen.trans sync.1, hmeant sync.2⟩⟩
  · intro hs
    obtain ⟨hspare, hdirect, hrest⟩ := h.shutDown hs
    rw [hdirect] at hlen
    exact ⟨hspare, List.eq_nil_of_length_eq_zero hlen, hrest⟩

theorem posted (h : Manned p) (hp : Posted p p') : Manned p' := by
  obtain ⟨queue, board, rfl, hcancelled, hsame⟩ := hp
  refine ⟨h.closed, h.opened, ?_, ?_, h.valid⟩
  · intro hs
    obtain ⟨hspare, hcount, hmans, sync⟩ := h.running hs
    refine ⟨hspare, hcount, fun w hw => ?_, sync⟩
    exact (hmans w hw).imp (fun hstop => ⟨hstop.1, hcancelled.trans hstop.2⟩) id
  · intro hs
    obtain ⟨hspare, hdirect, hworkers, hc, hitems⟩ := h.shutDown hs
    rw [hsame hc]
    exact ⟨hspare, hdirect, hworkers, hc, hitems⟩

theorem noted (h : Manned p) (hn : Noted p p') : Manned p' :=
  h.tends fun _ => (Tends.refl _ p).noted hn

theorem enter (h : Manned p) (hf : ∀ l, Alike l (f l).2) : Manned (p.enter f) :=
  h.tends fun _ => enter_tends (fun l hl => serves_of_alike hl (hf l)) p

theorem resume (h : Manned p) {k : Nat} (hp : p.resume k = some p') : Manned p' := by
  cases resume_some hp with
  | returned => exact h.noted ((p.report_noted _).dismiss k)
  | pinged before next =>
    have called : Manned (p.called _ _ Link.ping) :=
      h.tends fun _ => called_tends next fun l hl => serves_of_alike hl l.ping_alike
    exact called.noted ((Noted.refl _).setCaller k _)
  | past_all => exact h.noted ((Noted.refl p).setCaller k _)
  | reported => exact h.noted ((p.report_noted _).setCaller k _)
  | left => exact (h.posted (enqueue_posted ⟨.ping, none⟩ p)).noted ((Noted.refl _).setCaller k _)
  | gone => exact h.noted ((Noted.refl p).dismiss k)

theorem cancel (h : Manned p) (hs : p.stage ≠ .shutDown) : Manned p.cancel where
  closed := h.closed
  opened := h.opened
  running hr := by
    obtain ⟨hspare, hcount, hmans, sync⟩ := h.running hr
    exact ⟨hspare, hcount, fun w hw => (hmans w hw).imp (fun hstop => ⟨hstop.1, rfl⟩) id, sync⟩
  shutDown hd := absurd hd hs
  valid := h.valid

theorem release (hc : p.queue.cancelled = true) : Manned p.release :=
  gone ⟨rfl, rfl, rfl, hc, rfl⟩ rfl

theorem close (h : Manned p) : Manned p.close := by
  by_cases hs : p.stage = .shutDown
  · rwa [Pool.close, if_pos hs]
  · obtain ⟨rests, -⟩ := windUpAll_leads (p := p.cancel) rfl {} p.server.firingsLeft
    rw [Pool.close, if_neg hs]
    apply release
    rw [rests.queue]
    rfl

theorem disbands (h : Disbands p p') : Manned p' := by
  obtain ⟨server, queue, board, rfl, hc, hitems⟩ := h
  exact gone ⟨rfl, rfl, rfl, hc, hitems⟩ rfl

/-- An open that is refused changes nothing, one that goes well has both crews, and one that fails
on the way disbands them. -/
theorem connect_ends (h : Manned p) :
    (p.options.validate = .ok () → p.stage ≠ .closed) ∧ p.connect.2 = p ∨
    p.options.validate = .ok () ∧ p.stage = .closed ∧
      ((∃ server spare direct, p.Crew .async nothing spare ∧ p.Crew .sync nothing direct ∧
          p.connect = (.ok (), { p with server, spare, direct, stage := .opened })) ∨
        ∃ e p', p.connect = (.error e, p') ∧ Disbands p p') := by
  rcases p.connect_ends with ⟨e, hv, he⟩ | ⟨hv, ⟨hs, he⟩ | ⟨hs, ⟨q, hq, he⟩ | ⟨e, q, hq, he⟩⟩⟩
  · refine .inl ⟨?_, by rw [he]⟩
    rw [hv]
    intro hok
    cases hok
  · exact .inl ⟨fun _ => hs, by rw [he]⟩
  · obtain ⟨hspare, hdirect, _⟩ := h.closed hs
    obtain ⟨server, spare, direct, async, sync, rfl⟩ := openConnections_ok hq
    rw [hspare, hdirect, List.nil_append, List.nil_append] at he
    exact .inr ⟨hv, hs, .inl ⟨server, spare, direct, async, sync, he⟩⟩
  · obtain ⟨server, spare, direct, rfl⟩ := openConnections_error hq
    have idle : p.workers = [] := (h.closed hs).2.2
    exact .inr ⟨hv, hs, .inr ⟨e, _, he,
      disbands_close (p := { p with server, spare, direct }) idle (by simp [hs])⟩⟩

/-- The same for a preparation; where it goes well, each opened connection gets its worker. -/
theorem prepare_ends (h : Manned p) :
    p.stage ≠ .opened ∧ p.prepare.2 = p ∨
    p.stage = .opened ∧
      ((∃ server spare direct, p.Crew .async (p.meant .async) spare ∧
          p.Crew .sync (p.meant .sync) direct ∧ p.prepare = (.ok (), { p with
            server, direct, spare := [], stage := .running,
            workers := spare.map ({ conn := · }) })) ∨
        ∃ e p', p.prepare = (.error e, p') ∧ Disbands p p') := by
  rcases p.prepare_ends with ⟨hs, he⟩ |
    ⟨hs, ⟨spare, direct, s, server, hspare, hdirect, he⟩ | ⟨e, server, _, he⟩⟩
  · exact .inl ⟨hs, by rw [he]⟩
  · obtain ⟨async, sync, _⟩ := h.opened hs
    exact .inr ⟨hs, .inl ⟨server, spare, direct, crew_of_prepareEach async hspare,
      crew_of_prepareEach sync hdirect, he⟩⟩
  · have idle : p.workers = [] := (h.opened hs).2.2
    exact .inr ⟨hs, .inr ⟨e, _, he, disbands_close (p := { p with server }) idle (by simp [hs])⟩⟩

theorem connect (h : Manned p) : Manned p.connect.2 := by
  rcases h.connect_ends with ⟨_, he⟩ |
    ⟨hv, hs, ⟨server, spare, direct, async, sync, he⟩ | ⟨e, q, he, disbanded⟩⟩
  · rwa [he]
  · rw [he]
    refine ⟨?_, fun _ => ⟨async, sync, h.idle (by simp [hs])⟩, ?_, ?_, fun _ => hv⟩
    · intro hc
      cases hc
    · intro hr
      cases hr
    · intro hd
      cases hd
  · rw [he]
    exact disbands disbanded

theorem prepare (h : Manned p) : Manned p.prepare.2 := by
  rcases h.prepare_ends with ⟨_, he⟩ |
    ⟨hs, ⟨server, spare, direct, async, sync, he⟩ | ⟨e, q, he, disbanded⟩⟩
  · rwa [he]
  · rw [he]
    refine ⟨?_, ?_, fun _ => ⟨rfl, ?_, ?_, sync⟩, ?_, ?_⟩
    · intro hc
      cases hc
    · intro ho
      cases ho
    · rw [List.length_map]
      exact async.1
    · intro w hw
      obtain ⟨c, hc, rfl⟩ := List.mem_map.1 hw
      exact .inr (async.2 c hc)
    · intro hd
      cases hd
    · intro _
      exact h.valid (.inl hs)
  · rw [he]
    exact disbands disbanded

theorem setWorker (h : Manned p) (hw : p.workers[i]? = some w) (hmans : p.Mans w') :
    Manned (p.setWorker i w') := by
  have hr := h.serving hw
  obtain ⟨hspare, hcount, hall, sync⟩ := h.running hr
  refine ⟨?_, ?_, fun _ => ⟨hspare, List.length_set.trans hcount, fun w'' hw'' => ?_, sync⟩, ?_,
    h.valid⟩
  · intro hc
    rw [show p.stage = .closed from hc] at hr
    cases hr
  · intro ho
    rw [show p.stage = .opened from ho] at hr
    cases hr
  · rcases List.mem_or_eq_of_mem_set hw'' with hold | rfl
    · exact hall w'' hold
    · exact hmans
  · intro hd
    rw [show p.stage = .shutDown from hd] at hr
    cases hr

/-- A worker that has not stopped has its connection. -/
theorem serves (h : Manned p) {phase : Phase} (hw : p.workers[i]? = some ⟨c, phase⟩)
    (live : phase ≠ .stopped) : Serves (p.setup .async) (p.meant .async) c := by
  obtain ⟨_, _, hall, _⟩ := h.running (h.serving hw)
  rcases hall _ (List.mem_of_getElem? hw) with ⟨hstop, _⟩ | hserve
  · exact absurd hstop live
  · exact hserve

theorem advance (h : Manned p) {step : WorkerStep} (hp : p.advance i step = some p') :
    Manned p' := by
  cases step with
  | look =>
    obtain ⟨c, hw, ⟨hc, rfl⟩ | ⟨_, rfl⟩⟩ := look_some hp
    · exact h.setWorker hw (.inl ⟨rfl, hc⟩)
    · exact h.setWorker hw (.inr (h.serves hw (by simp)))
  | receive =>
    obtain ⟨c, j, queue, hw, _, hc, rfl⟩ := receive_some hp
    have hr := h.serving hw
    have taken : Manned { p with queue } := by
      refine ⟨h.closed, h.opened, fun _ => ?_, fun hd => ?_, h.valid⟩
      · obtain ⟨hspare, hcount, hall, sync⟩ := h.running hr
        exact ⟨hspare, hcount, fun w hw => (hall w hw).imp (fun hs => ⟨hs.1, hc.trans hs.2⟩) id,
          sync⟩
      · rw [show p.stage = .shutDown from hd] at hr
        cases hr
    exact taken.setWorker hw (.inr (h.serves hw (by simp)))
  | wake =>
    obtain ⟨c, hw, hc, rfl⟩ := wake_some hp
    exact h.setWorker hw (.inl ⟨rfl, hc⟩)
  | confirm =>
    obtain ⟨c, j, hw, ⟨hc, rfl⟩ | ⟨_, rfl⟩⟩ := confirm_some hp
    · have dropped : Manned { p with board := j.drop p.board } :=
        ⟨h.closed, h.opened, h.running, h.shutDown, h.valid⟩
      exact dropped.setWorker hw (.inl ⟨rfl, hc⟩)
    · exact h.setWorker hw (.inr (h.serves hw (by simp)))
  | work retries =>
    obtain ⟨c, j, r, l, hw, hrun, rfl⟩ := work_some hp
    have alike := j.task.run_alike p.options.deadlockBudget retries ⟨c, p.server⟩
    rw [hrun] at alike
    have served : Manned { p with server := l.server, board := j.settle r p.board } :=
      ⟨h.closed, h.opened, h.running, h.shutDown, h.valid⟩
    exact served.setWorker hw (.inr (serves_of_alike (h.serves hw (by simp)) alike))
  | tell =>
    obtain ⟨c, e, hw, rfl⟩ := tell_some hp
    have told : Manned { p with fatals := p.fatals ++ [e] } := h.noted ⟨_, p.callers, rfl⟩
    exact told.setWorker hw (.inr (h.serves hw (by simp)))

theorem call (h : Manned p) (k : PoolCall) : Manned (p.after k) := by
  cases k with
  | connect => exact h.connect
  | prepare => exact h.prepare
  | submit t => exact h.posted (submit_posted t p)
  | submitUnawaited t => exact h.posted (enqueue_posted ⟨t, none⟩ p)
  | keepAlive => exact h.noted (p.join_noted _)
  | execute sql => exact h.enter (Link.execute_alike sql)
  | executeBound s => exact h.enter (Link.executeBound_alike s)
  | query sql => exact h.enter (Link.query_alike sql)
  | queryBound s => exact h.enter (Link.queryBound_alike s)
  | commit t retries => exact h.enter (Link.commit_alike t _)
  | escape text => exact h.tends fun known => escape_tends _ text p
  | cancel =>
    simp only [after]
    split
    · exact h
    · rename_i hs
      exact h.cancel hs

theorem move (h : Manned p) {m : Move} (hm : p.move m = some p') : Manned p' := by
  cases m with
  | call k =>
    obtain ⟨_, rfl⟩ := call_some hm
    exact h.call k
  | resume k => exact h.resume hm
  | take k i =>
    cases hm
    exact ⟨h.closed, h.opened, h.running, h.shutDown, h.valid⟩
  | script d =>
    cases hm
    exact ⟨h.closed, h.opened, h.running, h.shutDown, h.valid⟩
  | worker i step => exact h.advance hm
  | release =>
    obtain ⟨ended, _, rfl⟩ := release_some hm
    exact release ended

theorem run {s s' : Scene} (h : Manned s.pool) {ms : List Move} (hr : s.run ms = some s') :
    Manned s'.pool :=
  Scene.run_keeps (P := fun s => Manned s.pool) (fun _ _ _ h hm => h.move hm) h hr

/-- Between two calls no worker has stopped. -/
theorem staffed (h : Manned p) (between : p.closing = false) : Staffed p where
  closed := h.closed
  opened := h.opened
  running hs := by
    obtain ⟨hspare, hcount, hall, sync⟩ := h.running hs
    have hopen : p.queue.cancelled = false := by simpa [closing, hs] using between
    refine ⟨hspare, ⟨by rwa [List.length_map], fun c hc => ?_⟩, sync⟩
    obtain ⟨w, hw, rfl⟩ := List.mem_map.1 hc
    rcases hall w hw with ⟨_, hc⟩ | hserve
    · rw [hopen] at hc
      cases hc
    · exact hserve
  shutDown := h.shutDown

end Manned

end Pool

theorem manned_new (name : String) (login : Login) (o : Options) (registry : Registry)
    (server : Server) : (Scene.new name login o registry server).pool.Manned := by
  refine ⟨fun _ => ⟨rfl, rfl, rfl⟩, ?_, ?_, ?_, ?_⟩
  · intro hs
    cases hs
  · intro hs
    cases hs
  · intro hs
    cases hs
  · rintro (hs | hs) <;> cases hs

end QueryPool
