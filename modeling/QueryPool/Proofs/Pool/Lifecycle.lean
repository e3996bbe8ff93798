import QueryPool.Proofs.Pool.Staffing

namespace QueryPool

namespace Pool

open Link (Outcome)

variable {p p' : Pool}

/-- What a pool is built from. -/
structure Origin where
  name : String
  login : Login
  options : Options
  registry : Registry

def origin (p : Pool) : Origin := ⟨p.name, p.login, p.options, p.registry⟩

/-- `p'` is the same pool later on; once it is shut down, it stays so. -/
structure Onward (p p' : Pool) : Prop where
  origin : p'.origin = p.origin
  shutDown : p.stage = .shutDown → p'.stage = .shutDown

theorem Onward.refl (p : Pool) : Onward p p := ⟨rfl, id⟩

theorem Onward.trans {p'' : Pool} (h : Onward p p') (h' : Onward p' p'') : Onward p p'' :=
  ⟨h'.origin.trans h.origin, fun hs => h'.shutDown (h.shutDown hs)⟩

theorem Aside.onward {act : Link → Link} (h : Aside act p p') : Onward p p' := by
  obtain ⟨_, _, _, _, _, _, rfl⟩ := h
  exact ⟨rfl, id⟩

theorem Noted.onward (h : Noted p p') : Onward p p' := by
  obtain ⟨_, _, rfl⟩ := h
  exact ⟨rfl, id⟩

theorem Posted.onward (h : Posted p p') : Onward p p' := by
  obtain ⟨_, _, rfl, _⟩ := h
  exact ⟨rfl, id⟩

theorem Disbands.onward (h : Disbands p p') : Onward p p' := by
  obtain ⟨_, _, _, rfl, _⟩ := h
  exact ⟨rfl, fun _ => rfl⟩

theorem connect_onward (h : Manned p) : Onward p p.connect.2 := by
  rcases h.connect_ends with ⟨_, he⟩ | ⟨_, hs, ⟨_, _, _, _, _, he⟩ | ⟨e, q, he, disbanded⟩⟩
  · rw [he]
    exact .refl p
  · rw [he]
    refine ⟨rfl, fun hd => ?_⟩
    rw [hs] at hd
    cases hd
  · rw [he]
    exact disbanded.onward

theorem prepare_onward (h : Manned p) : Onward p p.prepare.2 := by
  rcases h.prepare_ends with ⟨_, he⟩ | ⟨hs, ⟨_, _, _, _, _, he⟩ | ⟨e, q, he, disbanded⟩⟩
  · rw [he]
    exact .refl p
  · rw [he]
    refine ⟨rfl, fun hd => ?_⟩
    rw [hs] at hd
    cases hd
  · rw [he]
    exact disbanded.onward

theorem call_onward (h : Manned p) (k : PoolCall) : Onward p (p.after k) := by
  cases k with
  | connect => exact connect_onward h
  | prepare => exact prepare_onward h
  | submit t => exact (submit_posted t p).onward
  | submitUnawaited t => exact (enqueue_posted ⟨t, none⟩ p).onward
  | keepAlive => exact (p.join_noted _).onward
  | execute sql => exact (p.enter_aside (Link.execute sql)).onward
  | executeBound s => exact (p.enter_aside (Link.executeBound s)).onward
  | query sql => exact (p.enter_aside (Link.query sql)).onward
  | queryBound s => exact (p.enter_aside (Link.queryBound s)).onward
  | commit t retries => exact (p.enter_aside _).onward
  | escape text => exact (escape_aside text p).onward
  | cancel =>
    simp only [after]
    split
    · exact .refl p
    · exact ⟨rfl, id⟩

theorem resume_onward {k : Nat} (hp : p.resume k = some p') : Onward p p' := by
  cases resume_some hp with
  | returned => exact ((p.report_noted _).dismiss k).onward
  | pinged => exact ((p.called_aside _ _ Link.ping).noted ((Noted.refl _).setCaller k _)).onward
  | past_all => exact ((Noted.refl p).setCaller k _).onward
  | reported => exact ((p.report_noted _).setCaller k _).onward
  | left => exact (enqueue_posted ⟨.ping, none⟩ p).onward.trans ((Noted.refl _).setCaller k _).onward
  | gone => exact ((Noted.refl p).dismiss k).onward

theorem advance_onward {step : WorkerStep} (hp : p.advance i step = some p') : Onward p p' := by
  cases step with
  | look =>
    obtain ⟨c, _, ⟨_, rfl⟩ | ⟨_, rfl⟩⟩ := look_some hp
    · exact ⟨rfl, id⟩
    · exact ⟨rfl, id⟩
  | receive =>
    obtain ⟨c, j, queue, _, _, _, rfl⟩ := receive_some hp
    exact ⟨rfl, id⟩
  | wake =>
    obtain ⟨c, _, _, rfl⟩ := wake_some hp
    exact ⟨rfl, id⟩
  | confirm =>
    obtain ⟨c, j, _, ⟨_, rfl⟩ | ⟨_, rfl⟩⟩ := confirm_some hp
    · exact ⟨rfl, id⟩
    · exact ⟨rfl, id⟩
  | work retries =>
    obtain ⟨c, j, r, l, _, _, rfl⟩ := work_some hp
    exact ⟨rfl, id⟩
  | tell =>
    obtain ⟨c, e, _, rfl⟩ := tell_some hp
    exact ⟨rfl, id⟩

theorem move_onward (h : Manned p) {m : Move} (hm : p.move m = some p') : Onward p p' := by
  cases m with
  | call k =>
    obtain ⟨_, rfl⟩ := call_some hm
    exact call_onward h k
  | resume k => exact resume_onward hm
  | take k i =>
    cases hm
    exact ⟨rfl, id⟩
  | script d =>
    cases hm
    exact ⟨rfl, id⟩
  | worker i step => exact advance_onward hm
  | release =>
    obtain ⟨_, _, rfl⟩ := release_some hm
    exact ⟨rfl, fun _ => rfl⟩

theorem run_onward {s s' : Scene} (h : Manned s.pool) {ms : List Move} (hr : s.run ms = some s') :
    Onward s.pool s'.pool := by
  have both : s'.pool.Manned ∧ Onward s.pool s'.pool :=
    Scene.run_keeps (P := fun t => t.pool.Manned ∧ Onward s.pool t.pool)
      (fun _ _ _ ht hm => ⟨ht.1.move hm, ht.2.trans (move_onward ht.1 hm)⟩) ⟨h, .refl s.pool⟩ hr
  exact both.2

/-- A call that goes well leads to `stage`, and one that fails closes the pool. -/
structure Reaches (r : Except PoolError Unit × Pool) (stage : Stage) : Prop where
  stage : r.1 = .ok () ∧ r.2.stage = stage ∨ (∃ e, r.1 = .error e) ∧ r.2.stage = .shutDown
  staffed : r.2.Staffed

theorem reaches_disbanded {e : PoolError} {stage : Stage} (h : Disbands p p') :
    Reaches (.error e, p') stage := by
  have manned : p'.Manned := .disbands h
  obtain ⟨_, _, _, rfl, _⟩ := h
  exact ⟨.inr ⟨⟨e, rfl⟩, rfl⟩, manned.staffed (by simp [closing])⟩

theorem connect_reaches (h : Manned p) (between : p.closing = false)
    (hv : p.options.validate = .ok ()) (hs : p.stage = .closed) : Reaches p.connect .opened := by
  have manned := h.connect
  have hopen : p.queue.cancelled = false := by simpa [closing, hs] using between
  rcases h.connect_ends with ⟨refused, _⟩ | ⟨_, _, ⟨_, _, _, _, _, he⟩ | ⟨e, q, he, disbanded⟩⟩
  · exact absurd hs (refused hv)
  · rw [he] at manned ⊢
    exact ⟨.inl ⟨rfl, rfl⟩, manned.staffed (by simp [closing, hopen])⟩
  · rw [he]
    exact reaches_disbanded disbanded

theorem prepare_reaches (h : Manned p) (between : p.closing = false) (hs : p.stage = .opened) :
    Reaches p.prepare .running := by
  have manned := h.prepare
  have hopen : p.queue.cancelled = false := by simpa [closing, hs] using between
  rcases h.prepare_ends with ⟨refused, _⟩ | ⟨_, ⟨_, _, _, _, _, he⟩ | ⟨e, q, he, disbanded⟩⟩
  · exact absurd hs refused
  · rw [he] at manned ⊢
    exact ⟨.inl ⟨rfl, rfl⟩, manned.staffed (by simp [closing, hopen])⟩
  · rw [he]
    exact reaches_disbanded disbanded

/-- A pool without direct connections to lend: a call for one fails with `e` and changes nothing,
and there is nothing to keep alive. -/
structure Refuses (p : Pool) (e : PoolError) : Prop where
  direct {α : Type} (f : Link → Outcome α) : p.onDirect f = (.error e, p)
  escape (text : String) : text ≠ "" → p.escape text = (.error e, p)
  keepAlive : p.keepAlive = p

theorem refuses_of_borrow {e : PoolError} (hb : p.borrow = (.error e, p)) (hdirect : p.direct = [])
    (hworkers : p.workers = []) : p.Refuses e where
  direct f := by simp only [onDirect, lend, hb]
  escape text ht := by simp only [escape, ht, if_false, hb]
  keepAlive := by
    simp only [keepAlive, hdirect, hworkers, List.length_nil, List.range_zero, List.foldl_nil,
      pingDirect]

/-- What a pool does with the calls that its stage decides about. -/
structure Gated (p : Pool) : Prop where
  invalid : ∀ e, p.options.validate = .error e → p.connect = (.error e, p)
  connected : p.options.validate = .ok () → p.stage ≠ .closed →
    p.connect = (.error (.config (.alreadyOpened p.name)), p)
  connects : p.options.validate = .ok () → p.stage = .closed → Reaches p.connect .opened
  unopened : p.stage ≠ .opened → p.prepare = (.error (.config (.notOpenForPreparing p.name)), p)
  prepares : p.stage = .opened → Reaches p.prepare .running
  early : p.stage = .closed → p.Refuses (.config (.notOpenForUse p.name))
  late : p.stage = .shutDown → p.Refuses .closed ∧ p.close = p
  /-- a direct connection is there whenever one may be borrowed -/
  borrows : p.stage = .opened ∨ p.stage = .running →
    ∃ i, i < p.direct.length ∧ p.borrow = (.ok i, { p with turn := p.turn + 1 })

theorem Manned.gated (h : Manned p) (between : p.closing = false) : Gated p where
  invalid e he := by
    simp only [Pool.connect, he]
  connected hv hs := by
    simp only [Pool.connect, hv, if_pos hs]
  connects hv hs := connect_reaches h between hv hs
  unopened hs := by
    simp only [Pool.prepare, if_pos hs]
  prepares hs := prepare_reaches h between hs
  early hs := by
    obtain ⟨_, hdirect, hworkers⟩ := h.closed hs
    exact refuses_of_borrow (borrow_closed hs) hdirect hworkers
  late hs := by
    obtain ⟨_, hdirect, hworkers, _⟩ := h.shutDown hs
    exact ⟨refuses_of_borrow (borrow_shutDown hs) hdirect hworkers, by rw [Pool.close, if_pos hs]⟩
  borrows hs := by
    have hlen : p.direct.length = p.options.threads .sync := by
      rcases hs with hs | hs
      · exact (h.opened hs).2.1.1
      · exact (h.running hs).2.2.2.1
    have hpos : 0 < p.direct.length := by
      rw [hlen]
      exact Options.threads_pos (h.valid hs) .sync
    exact ⟨_, Nat.mod_lt _ hpos, borrow_next hs (List.length_pos_iff.1 hpos)⟩

end Pool

/-- Between any two calls a pool has the connections and workers of its stage, their tables name the
statements that are meant for them, and its stage decides which calls it takes. A close is a run of
moves and leads to the last stage, which nothing leaves. -/
theorem run_staffed (name : String) (login : Login) (o : Options) (registry : Registry)
    (server : Server) (ms : List Move) (s : Scene)
    (hr : (Scene.new name login o registry server).run ms = some s)
    (between : s.pool.closing = false) :
    s.pool.origin = ⟨name, login, o, registry⟩ ∧ s.pool.Staffed ∧ s.pool.Gated ∧
    (s.pool.close.stage = .shutDown ∧ s.pool.close.Staffed ∧
      ∃ g, Scene.Leads s ⟨s.pool.close, g⟩) ∧
    (s.pool.stage = .shutDown → ∀ ms' s', s.run ms' = some s' → s'.pool.stage = .shutDown) := by
  have new := manned_new name login o registry server
  have manned : s.pool.Manned := new.run hr
  have closed : s.pool.close.closing = false := by simp [Pool.closing, s.pool.close_stage]
  refine ⟨(Pool.run_onward new hr).origin, manned.staffed between, manned.gated between,
    ⟨s.pool.close_stage, manned.close.staffed closed, Pool.close_leads between s.log⟩, ?_⟩
  intro hs ms' s' hr'
  exact (Pool.run_onward manned hr').shutDown hs

/-- A pool with two workers and one try at a lost session; one statement is for both sides and one
for workers only. -/
def pairedPool : Scene :=
  .new "world" ⟨"localhost", "3306", "trinity", "trinity", "world", false⟩
    { asyncThreads := 2, reconnectAttempts := 1 }
    ((({} : Registry).insert ⟨1, "SELECT ?", .both⟩).insert ⟨2, "DELETE FROM guild", .async⟩) {}

/-- The direct connection loses its session, and the one try at another is refused. -/
def stranded : List Move :=
  [.call .connect, .call .prepare, .script (.addRule ⟨"SELECT 1", 2013, some 1⟩),
    .script (.refuseConnects 1), .call (.execute "SELECT 1"), .resume 0,
    .call (.submit (.query "SELECT 2")), .worker 1 .look]

theorem run_staffed_stranded : ∃ s, pairedPool.run stranded = some s ∧ s.pool.closing = false ∧
    s.pool.stage = .running ∧ s.pool.direct.map (·.isOpen) = [false] ∧ s.pool.queueSize = 1 ∧
    s.pool.Staffed ∧ s.pool.Gated ∧ s.pool.close.Staffed := by
  obtain ⟨s, hr⟩ : ∃ s, pairedPool.run stranded = some s :=
    Option.isSome_iff_exists.1 (by decide +kernel)
  have hc : (pairedPool.run stranded).map (·.pool.closing) = some false := by decide +kernel
  have hs : (pairedPool.run stranded).map (·.pool.stage) = some .running := by decide +kernel
  have hd : (pairedPool.run stranded).map (·.pool.direct.map (·.isOpen)) = some [false] := by
    decide +kernel
  have hq : (pairedPool.run stranded).map (·.pool.queueSize) = some 1 := by decide +kernel
  rw [hr] at hc hs hd hq
  have between : s.pool.closing = false := Option.some.inj hc
  obtain ⟨_, staffed, gated, ⟨_, closed, _⟩, _⟩ := run_staffed _ _ _ _ _ stranded s hr between
  exact ⟨s, hr, between, Option.some.inj hs, Option.some.inj hd, Option.some.inj hq, staffed, gated,
    closed⟩

end QueryPool
