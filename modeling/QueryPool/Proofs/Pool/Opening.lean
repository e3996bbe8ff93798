import QueryPool.Proofs.Connection.Table
import QueryPool.Proofs.Pool.Steps

namespace QueryPool

theorem Batch.runQueries_alike (qs : List (Option Statement)) (rs : List (Option Cursor)) (l : Link) :
    Link.Alike l (Batch.runQueries qs rs l).2.2 := by
  fun_induction Batch.runQueries qs rs l with
  | case1 qs r rs l e rs' l' hr ih =>
    rw [hr] at ih
    exact ih
  | case2 s qs r rs l rows m hm e rs' l' hr ih =>
    have first := l.queryBound_alike s
    rw [hm] at first
    rw [hr] at ih
    exact first.trans ih
  | case3 s qs r rs l err m hm fatal =>
    have first := l.queryBound_alike s
    rw [hm] at first
    exact first
  | case4 s qs r rs l err m hm nonfatal e rs' l' hr ih =>
    have first := l.queryBound_alike s
    rw [hm] at first
    rw [hr] at ih
    exact first.trans ih
  | case5 => exact .refl _

theorem Task.run_alike (t : Task) (limit : Duration) (retries : Nat) (l : Link) :
    Link.Alike l (t.run limit retries l).2 := by
  cases t with
  | execute sql => exact l.execute_alike sql
  | executeBound s => exact l.executeBound_alike s
  | query sql => exact l.query_alike sql
  | queryBound s => exact l.queryBound_alike s
  | commit t => exact l.commit_alike t _
  | batch b => exact Batch.runQueries_alike b.queries b.results l
  | ping => exact l.ping_alike

/-- How many connections a pool has on a side. -/
def Options.threads (o : Options) : Side → Nat
  | .async => o.asyncThreads.toNat
  | .sync => o.syncThreads.toNat

theorem Options.threads_pos {o : Options} (h : o.validate = .ok ()) (side : Side) :
    0 < o.threads side := by
  unfold validate at h
  split at h
  · cases h
  · rename_i hasync
    split at h
    · cases h
    · rename_i hsync
      cases side with
      | async => exact Nat.pos_of_ne_zero fun h0 => hasync (UInt8.toNat_inj.1 h0)
      | sync => exact Nat.pos_of_ne_zero fun h0 => hsync (UInt8.toNat_inj.1 h0)

/-- A connection that is made by `s` and has prepared the ids `known` and no others. -/
structure Connection.Serves (s : Setup) (known : Nat → Prop) (c : Connection) : Prop where
  setup : c.setup = s
  table : ∀ id, c.isPrepared id = true ↔ known id

namespace Pool

open Link (Outcome Alike)
open Connection (Serves)

variable {α : Type} {p p' : Pool} {side : Side} {known : Nat → Prop} {c : Connection}
  {P : Connection → Prop} {f : Link → Outcome α} {i n : Nat} {w w' : Worker}

/-- What the pool makes its connections of a side with. -/
def setup (p : Pool) (side : Side) : Setup := (p.connection side).setup

def nothing : Nat → Prop := fun _ => False

/-- The ids whose templates are for a side. -/
def meant (p : Pool) (side : Side) : Nat → Prop :=
  fun id => ∃ t, p.registry.get? id = some t ∧ t.audience.allows side = true

/-- As many connections as the options say, each with the ids `known`. -/
def Crew (p : Pool) (side : Side) (known : Nat → Prop) (cs : List Connection) : Prop :=
  cs.length = p.options.threads side ∧ ∀ c ∈ cs, Serves (p.setup side) known c

theorem serves_of_alike {s : Setup} {server : Server} {m : Link} (h : Serves s known c)
    (ha : Alike ⟨c, server⟩ m) : Serves s known m.conn := by
  refine ⟨ha.setup.trans h.setup, fun id => ?_⟩
  rw [ha.table]
  exact h.table id

/-- What calls on direct connections may change, if they keep `P` of a connection. -/
def Tends (P : Connection → Prop) (p p' : Pool) : Prop :=
  ∃ server direct turn fatals callers, p' = { p with server, direct, turn, fatals, callers } ∧
    direct.length = p.direct.length ∧ ((∀ c ∈ p.direct, P c) → ∀ c ∈ direct, P c)

theorem Tends.refl (P : Connection → Prop) (p : Pool) : Tends P p p :=
  ⟨p.server, p.direct, p.turn, p.fatals, p.callers, rfl, rfl, id⟩

theorem Tends.noted {p'' : Pool} (h : Tends P p p') (h' : Noted p' p'') : Tends P p p'' := by
  obtain ⟨server, direct, turn, _, _, rfl, hlen, hP⟩ := h
  obtain ⟨fatals, callers, rfl⟩ := h'
  exact ⟨server, direct, turn, fatals, callers, rfl, hlen, hP⟩

theorem called_tends (hc : p.direct[i]? = some c) (hf : ∀ l : Link, P l.conn → P (f l).2.conn) :
    Tends P p (p.called i c f) := by
  refine ⟨_, _, p.turn, p.fatals, p.callers, rfl, List.length_set, fun hp c' hc' => ?_⟩
  rcases List.mem_or_eq_of_mem_set hc' with hold | rfl
  · exact hp c' hold
  · exact hf _ (hp c (List.mem_of_getElem? hc))

theorem enter_tends (hf : ∀ l : Link, P l.conn → P (f l).2.conn) (p : Pool) :
    Tends P p (p.enter f) := by
  rcases p.lend_cases f with ⟨e, _, h⟩ | ⟨i, c, hc, h⟩
  · rw [enter_refused h]
    exact .refl P p
  · obtain ⟨server, direct, _, _, _, he, hlen, hP⟩ :=
      called_tends (p := { p with turn := p.turn + 1 }) hc hf
    rw [enter_made h, he]
    exact ⟨server, direct, _, _, _, rfl, hlen, hP⟩

theorem escape_tends (P : Connection → Prop) (text : String) (p : Pool) :
    Tends P p (p.escape text).2 := by
  rcases p.escape_cases text with ⟨e, _, h⟩ | ⟨_, turn, h⟩
  · rw [h]
    exact .refl P p
  · rw [h]
    exact ⟨p.server, p.direct, turn, p.fatals, p.callers, rfl, rfl, id⟩

/-- Opened connections join those of their side. -/
def enlist (p : Pool) (cs : List Connection) : Side → Pool
  | .async => { p with spare := p.spare ++ cs }
  | .sync => { p with direct := p.direct ++ cs }

theorem openConnection_ok (h : p.openConnection side = (.ok c, p')) :
    ∃ server, p' = { p with server } ∧ Serves (p.setup side) nothing c := by
  unfold openConnection at h
  have alike := Link.openSession_alike ⟨p.connection side, p.server⟩
  split at h
  · rename_i l hl
    rw [hl] at alike
    cases h
    refine ⟨_, rfl, alike.setup, fun id => ?_⟩
    have table := alike.table id
    simp only at table
    rw [table]
    exact ⟨fun hid => Bool.false_ne_true hid, False.elim⟩
  · cases h

theorem openSide_ok (h : openSide side n p = (.ok (), p')) :
    ∃ server cs, cs.length = n ∧ (∀ c ∈ cs, Serves (p.setup side) nothing c) ∧
      p' = ({ p with server } : Pool).enlist cs side := by
  induction n generalizing p with
  | zero =>
    cases h
    refine ⟨p'.server, [], rfl, by simp, ?_⟩
    cases side <;> simp [enlist]
  | succ n ih =>
    unfold openSide at h
    split at h
    · rename_i c q hq
      obtain ⟨server, rfl, serves⟩ := openConnection_ok hq
      obtain ⟨server', cs, hlen, hcs, rfl⟩ := ih h
      refine ⟨server', c :: cs, by rw [List.length_cons, hlen], ?_, ?_⟩
      · intro c' hc'
        rcases List.mem_cons.1 hc' with rfl | hc'
        · exact serves
        · cases side <;> exact hcs c' hc'
      · cases side <;> simp [enlist, addConnection]
    · cases h

theorem openConnections_ok (h : p.openConnections = (.ok (), p')) :
    ∃ server spare direct, p.Crew .async nothing spare ∧ p.Crew .sync nothing direct ∧
      p' = { p with server, spare := p.spare ++ spare, direct := p.direct ++ direct } := by
  unfold openConnections at h
  split at h
  · rename_i q hq
    obtain ⟨server, spare, hlen, hspare, rfl⟩ := openSide_ok hq
    obtain ⟨server', direct, hlen', hdirect, rfl⟩ := openSide_ok h
    exact ⟨server', spare, direct, ⟨hlen, hspare⟩, ⟨hlen', hdirect⟩, rfl⟩
  · rename_i failed
    exact (failed _ h).elim

/-- A failure on the way leaves what was opened before it. -/
theorem openConnections_error {e : PoolError} (h : p.openConnections = (.error e, p')) :
    ∃ server spare direct, p' = { p with server, spare, direct } := by
  obtain ⟨server, spare, direct, _, he, _⟩ := p.openConnections_eq
  rw [h] at he
  exact ⟨server, spare, direct, he⟩

theorem prepareEach_ok {cs cs' : List Connection} {s s' : Server}
    (h : prepareEach cs s = (.ok cs', s')) (hcs : ∀ c ∈ cs, Serves (p.setup side) nothing c) :
    ∀ c ∈ cs', Serves (p.setup side) (p.meant side) c := by
  induction cs generalizing s cs' s' with
  | nil =>
    cases h
    intro c hc
    cases hc
  | cons c cs ih =>
    unfold prepareEach at h
    split at h
    · cases h
    · rename_i l hl
      have serves : Serves (p.setup side) nothing c := hcs c (by simp)
      have kept := (Link.prepareStatements_prepares ⟨c, s⟩).kept
      rw [hl] at kept
      have registry : c.registry = p.registry := congrArg Setup.registry serves.setup
      have hside : c.side = side := congrArg Setup.side serves.setup
      have prepared : Serves (p.setup side) (p.meant side) l.conn := by
        refine ⟨kept.setup.trans serves.setup, fun id => ?_⟩
        rw [Link.prepareStatements_ok hl, serves.table, registry, hside]
        exact or_iff_left not_false
      split at h
      · rename_i rest s'' hrest
        cases h
        intro c' hc'
        rcases List.mem_cons.1 hc' with rfl | hc'
        · exact prepared
        · exact ih hrest (fun c hc => hcs c (by simp [hc])) c' hc'
      · rename_i failed
        exact (failed _ _ h).elim

theorem crew_of_prepareEach {cs cs' : List Connection} {s s' : Server} (h : p.Crew side nothing cs)
    (hp : prepareEach cs s = (.ok cs', s')) : p.Crew side (p.meant side) cs' :=
  ⟨(length_prepareEach hp).trans h.1, prepareEach_ok hp h.2⟩

/-- `p'` is `p` with its connections and workers let go, before any of them ran a job. -/
def Disbands (p p' : Pool) : Prop := ∃ server queue board,
  p' = { p with
    server, queue, board, workers := [], spare := [], direct := [], stage := .shutDown } ∧
  queue.cancelled = true ∧ queue.items = []

theorem disbands_close (idle : p.workers = []) (running : p.stage ≠ .shutDown) :
    Disbands p p.close := by
  rw [close_idle running idle]
  exact ⟨p.server, _, _, rfl, rfl, rfl⟩

end Pool
end QueryPool
