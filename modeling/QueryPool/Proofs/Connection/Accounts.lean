import QueryPool.Proofs.Connection.Recovery

namespace QueryPool

/-- A caller's own open. -/
def Step.isOpening : Step → Bool
  | .request .openSession => true
  | _ => false

/-- One statement outside a transaction, or a ping. -/
def Request.isSingle : Request → Bool
  | .ping | .execute _ | .query _ | .executeBound _ | .queryBound _ => true
  | _ => false

namespace Link

variable {α : Type} {f : Session.Call α} {l m l' : Link} {n : Nat} {errs : List PoolError}

/-- What is added to the books from `l` to `m`. -/
structure Costs (connects failed reconnects : Nat) (l m : Link) : Prop where
  connects : m.server.connects = l.server.connects + connects
  failedAttempts : m.conn.failedAttempts = l.conn.failedAttempts + failed
  reconnects : m.conn.reconnects = l.conn.reconnects + reconnects

/-- An open connects once, whatever becomes of it. -/
theorem openSession_costs (l : Link) : Costs 1 0 0 l l.openSession.2 := by
  refine ⟨?_, l.openSession_reached.failedAttempts, l.openSession_reached.reconnects⟩
  rcases l.openSession_cases with ⟨e, n, _, ho⟩ | ⟨_, ho⟩
  · rw [ho]
  · rw [ho]
    exact (prepareAgain_prepares l.conn.prepared.keys l.renewed).kept.server.connects

theorem Refused.costs (h : Refused l errs l') : Costs errs.length errs.length 0 l l' := by
  induction h with
  | start => exact ⟨rfl, rfl, rfl⟩
  | @more l m l' err errs failed _ ih =>
    have one := l.openSession_costs
    rw [failed] at one
    obtain ⟨connects, failedAttempts, reconnects⟩ := ih
    simp only [Connection.close] at connects failedAttempts reconnects
    refine ⟨?_, ?_, ?_⟩
    · rw [connects, one.connects, List.length_cons]
      omega
    · rw [failedAttempts, one.failedAttempts, List.length_cons]
      omega
    · rw [reconnects, one.reconnects]

theorem Reconnects.costs (h : Reconnects n l errs l') :
    Costs (errs.length + 1) errs.length 1 l l' := by
  obtain ⟨m, m', refused, _, opened, rfl⟩ := h
  have tried := refused.costs
  have one := m.openSession_costs
  rw [opened] at one
  refine ⟨?_, ?_, ?_⟩
  · rw [one.connects, tried.connects, ← Nat.add_assoc]
    rfl
  · exact one.failedAttempts.trans tried.failedAttempts
  · simp only
    rw [one.reconnects, tried.reconnects]
    rfl

theorem GivesUp.costs (h : GivesUp n l errs l') : Costs n n 0 l l' := by
  obtain ⟨m, refused, all, rfl⟩ := h
  have tried := refused.costs
  rw [all] at tried
  exact ⟨tried.connects, tried.failedAttempts, tried.reconnects⟩

theorem Submits.connects {r : Except NativeError α} (hf : Session.Plain f) (h : Submits f l r m) :
    m.server.connects = l.server.connects := by
  cases h with
  | closed => rfl
  | @native ses ses' server r opened ran =>
    have hc := hf.connects ses l.server
    rwa [ran] at hc

/-- Beside `opens` connects, every connect is in the connection's books. -/
def Balanced (opens : Nat) (l : Link) : Prop :=
  l.server.connects = opens + l.conn.reconnects + l.conn.failedAttempts

/-- Every try that failed cost one connect, and every reconnect one more. -/
theorem Costs.balanced {opens connects failed reconnects : Nat} (extra : Nat)
    (h : Costs connects failed reconnects l m) (all : connects = extra + reconnects + failed)
    (hl : l.Balanced opens) : m.Balanced (opens + extra) := by
  unfold Balanced at *
  rw [h.connects, h.failedAttempts, h.reconnects, hl, all]
  omega

theorem steady_balanced (opens : Nat) : Steady (Balanced opens) where
  submits hf h hl := by
    unfold Balanced
    rw [h.connects hf, h.conn]
    exact hl
  reconnects h hl := h.costs.balanced 0 (by omega) hl
  givesUp h hl := h.costs.balanced 0 (by omega) hl
  prepares h hl := by
    unfold Balanced
    rw [h.kept.server.connects, h.kept.reconnects, h.kept.failedAttempts]
    exact hl
  close hl := hl

theorem step_balanced {opens : Nat} (s : Step) (hl : l.Balanced opens) :
    (l.step s).Balanced (opens + if s.isOpening then 1 else 0) := by
  have opened := l.openSession_costs.balanced 1 rfl hl
  cases s with
  | direction d => cases d <;> exact hl
  | request q =>
    cases q with
    | openSession => exact opened
    | _ => exact (steady_balanced opens).perform _ (fun hq => by cases hq) hl

theorem run_balanced {opens : Nat} (steps : List Step) (hl : l.Balanced opens) :
    (l.run steps).Balanced (opens + steps.countP Step.isOpening) := by
  induction steps generalizing l opens with
  | nil => exact hl
  | cons s steps ih =>
    have rest := ih (step_balanced s hl)
    rwa [Nat.add_assoc, Nat.add_comm (ite _ _ _), ← List.countP_cons] at rest

/-- Each loss was made good by one reconnect, which has at most `n` tries. -/
theorem Losses.connects {xs : List Loss} (hf : Session.Plain f) (h : Losses f n l xs m) :
    m.server.connects ≤ l.server.connects + xs.length * n := by
  induction h with
  | none => omega
  | more submitted _ reconnected _ ih =>
    have few : _ < n := reconnected.choose_spec.choose_spec.2.1
    rw [reconnected.costs.connects, submitted.connects hf] at ih
    rw [List.length_cons, Nat.succ_mul]
    omega

/-- Only a call with a try left reconnects once more before it fails. -/
theorem Decides.connects {left : Nat} {r : Outcome α} (hf : Session.Plain f)
    (h : Decides f n left l r) : r.2.server.connects ≤ l.server.connects + min left 1 * n := by
  cases h with
  | ok submitted | reported submitted | mismatched submitted | looped submitted =>
    rw [submitted.connects hf]
    exact Nat.le_add_right _ _
  | exhausted submitted _ some failed =>
    have spent := failed.costs.connects
    rw [submitted.connects hf] at spent
    rw [Nat.min_eq_right some, Nat.one_mul]
    exact Nat.le_of_eq spent

/-- From `l` to `m` there are at most as many reconnects as the policy has tries, each of at most as
many connects. -/
structure WithinPolicy (l m : Link) : Prop where
  reconnects : m.conn.reconnects ≤ l.conn.reconnects + l.conn.policy.attempts
  connects : m.server.connects ≤
    l.server.connects + l.conn.policy.attempts * l.conn.policy.attempts

theorem WithinPolicy.refl (l : Link) : WithinPolicy l l :=
  ⟨Nat.le_add_right _ _, Nat.le_add_right _ _⟩

theorem call_withinPolicy (hf : Session.Plain f) (l : Link) :
    WithinPolicy l (l.call .retry f).2 := by
  obtain ⟨xs, m, few, losses, decides, reconnects⟩ := (call_iff_course f l _).1 rfl
  refine ⟨by omega, ?_⟩
  have spent := losses.connects hf
  have last := decides.connects hf
  -- a reconnect that is given up comes on top of fewer than the policy's tries
  have within : xs.length + min (l.conn.policy.attempts - xs.length) 1 ≤ l.conn.policy.attempts := by
    omega
  have total := Nat.mul_le_mul_right l.conn.policy.attempts within
  rw [Nat.add_mul] at total
  omega

theorem withBound_withinPolicy {g : Nat → List Value → Session.Call α}
    (hg : ∀ id vs, Session.Plain (g id vs)) (s : Statement) (l : Link) :
    WithinPolicy l (l.withBound .retry s g).2 := by
  rcases l.withBound_cases .retry s g with ⟨p, _, hb⟩ | ⟨vs, _, _, hb⟩ | ⟨vs, _, _, hb⟩
  · rw [hb]
    exact .refl l
  · rw [hb]
    exact .refl l
  · rw [hb]
    exact l.call_withinPolicy (hg s.id vs)

theorem perform_withinPolicy {q : Request} (single : q.isSingle = true) (l : Link) :
    WithinPolicy l (l.perform q).2 := by
  cases q with
  | ping => exact l.call_withinPolicy Session.ping_plain
  | execute sql => exact l.call_withinPolicy (Session.execute_runs sql).plain
  | query sql => exact l.call_withinPolicy (Session.query_runs sql).plain
  | executeBound s =>
    exact l.withBound_withinPolicy (fun id vs => (Session.executePrepared_runs id vs).plain) s
  | queryBound s =>
    exact l.withBound_withinPolicy (fun id vs => (Session.queryPrepared_runs id vs).plain) s
  | openSession | close | prepareStatements | transaction | commit => cases single

/-- The tries that a policy makes are the first of those that would fail. -/
theorem Refused.first (h : Refused l errs l') (few : n ≤ errs.length) :
    ∃ m, Refused l (errs.take n) m := by
  induction h generalizing n with
  | start l => exact ⟨l, by rw [List.take_nil]; exact .start l⟩
  | @more l m l' err errs failed _ ih =>
    cases n with
    | zero => exact ⟨l, .start l⟩
    | succ n =>
      obtain ⟨k, hk⟩ := ih (by simpa using few)
      exact ⟨k, .more failed hk⟩

/-- The server's connects are the direct opens, the reconnects and the tries that failed; between
calls nothing is reconnecting; and a call that is one submission keeps within the policy's tries.
If the first opens of a reconnect fail, the connection makes one connect more when the policy has a
try left for it, and gives up with as many connects as the policy has tries when it has not. -/
theorem connects_accounted :
    (∀ (s : Setup) (server : Server) (steps : List Step),
      let l := (made s server).run steps
      l.server.connects = server.connects + steps.countP Step.isOpening + l.conn.reconnects +
        l.conn.failedAttempts ∧ l.conn.reconnecting = false) ∧
    (∀ (l : Link) (q : Request), q.isSingle = true → WithinPolicy l (l.perform q).2) ∧
    ∀ (l m : Link) (errs : List PoolError) (cause : NativeError), Refused l.disconnect errs m →
      let n := l.conn.policy.attempts
      let k := errs.length
      (k < n → ∀ m', m.openSession = (.ok (), m') →
        ∃ l', l.reconnect cause = (.ok (), l') ∧ Costs (k + 1) k 1 l l') ∧
      (n ≤ k → ∃ l' last, l.reconnect cause = (.error (.fatal (.reconnectExhausted n last)), l') ∧
        Costs n n 0 l l' ∧ l'.conn.isOpen = false) := by
  refine ⟨fun s server steps => ⟨?_, run_settled rfl⟩, fun l q single => l.perform_withinPolicy single,
    fun l m errs cause refused => ⟨fun few m' opened => ?_, fun many => ?_⟩⟩
  · exact run_balanced steps (show (made s server).Balanced server.connects from rfl)
  · have reconnected : Reconnects l.conn.policy.attempts l errs _ :=
      ⟨m, m', refused, few, opened, rfl⟩
    exact ⟨_, reconnected.reconnect, reconnected.costs⟩
  · obtain ⟨k, tried⟩ := refused.first many
    have failed : GivesUp l.conn.policy.attempts l (errs.take l.conn.policy.attempts) _ :=
      ⟨k, tried, List.length_take_of_le many, rfl⟩
    have closed := congrArg Option.isSome failed.reached.1
    exact ⟨_, _, failed.reconnect, failed.costs, closed⟩

/-- A connection with two tries that knows `SELECT ?`, on a server that spoils the next `n`
preparations. -/
def spoiling (n : Nat) : Link :=
  fresh.run [.request .openSession, .request .prepareStatements,
    .direction (.addRule ⟨"PREPARE", 1105, some n⟩)]

/-- What is left of `l` once a try at a session has failed. -/
def afterTry (l : Link) : Link :=
  let m := l.openSession.2
  { m with conn := { m.conn.close with failedAttempts := m.conn.failedAttempts + 1 } }

theorem connects_accounted_spoiling :
    let spoilt : PoolError := .database ⟨1105, "injected failure for 'PREPARE SELECT ?'"⟩
    let cause : NativeError := ⟨2013, "connection lost"⟩
    let once := (spoiling 1).disconnect.afterTry
    let twice := (spoiling 2).disconnect.afterTry.afterTry
    (∀ n, (spoiling n).conn.policy.attempts = 2) ∧
    WithinPolicy (spoiling 1) ((spoiling 1).perform (.executeBound boundSelect)).2 ∧
    (Refused (spoiling 1).disconnect [spoilt] once ∧ once.openSession.1 = .ok () ∧
      ∃ l', (spoiling 1).reconnect cause = (.ok (), l') ∧ Costs 2 1 1 (spoiling 1) l') ∧
    Refused (spoiling 2).disconnect [spoilt, spoilt] twice ∧
      ∃ l' last, (spoiling 2).reconnect cause =
        (.error (.fatal (.reconnectExhausted 2 last)), l') ∧ Costs 2 2 0 (spoiling 2) l' ∧
        l'.conn.isOpen = false := by
  intro spoilt cause once twice
  have tries (n : Nat) : (spoiling n).conn.policy.attempts = 2 :=
    congrArg ReconnectPolicy.attempts (policy_eq (fresh.run_setup _))
  have failed {l : Link} (h : l.openSession.1 = .error spoilt) :
      l.openSession = (.error spoilt, l.openSession.2) := Prod.ext h rfl
  have first : Refused (spoiling 1).disconnect [spoilt] once := .more (failed (by rfl)) (.start _)
  have both : Refused (spoiling 2).disconnect [spoilt, spoilt] twice :=
    .more (failed (by rfl)) (.more (failed (by rfl)) (.start _))
  have opened : once.openSession.1 = .ok () := by rfl
  obtain ⟨_, bounded, exactly⟩ := connects_accounted
  have ends := (exactly _ _ _ cause first).1 (by rw [tries]; decide) _ (Prod.ext opened rfl)
  have spent := (exactly _ _ _ cause both).2 (by rw [tries]; decide)
  rw [tries] at spent
  exact ⟨tries, bounded (spoiling 1) (.executeBound boundSelect) rfl, ⟨first, opened, ends⟩, both,
    spent⟩

end Link
end QueryPool
