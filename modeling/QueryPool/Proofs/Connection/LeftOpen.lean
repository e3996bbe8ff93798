import QueryPool.Proofs.Connection.Report
import QueryPool.Proofs.Connection.Visibility

namespace QueryPool.Link

variable {α : Type} {f : Session.Call α} {text : Session → Except NativeError String}
  {l m : Link} {e : NativeError} {err : PoolError}

/-- Whether the connection's session, if it has one, is inside a transaction. -/
def inTransaction (l : Link) : Bool := l.conn.session.any Session.inTransaction

theorem inTransaction_of_closed (h : l.conn.session = none) : l.inTransaction = false := by
  rw [inTransaction, h, Option.any_none]

theorem Idle.not_inTransaction (h : l.Idle) : l.inTransaction = false := by
  cases hs : l.conn.session with
  | none => exact inTransaction_of_closed hs
  | some ses => simp [inTransaction, hs, Session.inTransaction, h.settled ses hs]

theorem Submits.failed_inTransaction (hf : Session.Plain f) (h : Submits f l (.error e) m) :
    m.inTransaction = l.inTransaction := by
  obtain ⟨server, _, rfl⟩ := h.error_eq hf
  rfl

/-- A statement neither opens a transaction nor ends one. -/
theorem Submits.ran_inTransaction (hf : Session.Runs f text) {a : α} (h : Submits f l (.ok a) m) :
    m.inTransaction = l.inTransaction := by
  cases h with
  | native opened ran =>
    obtain ⟨t, _, hrun⟩ := hf.ok ran
    obtain ⟨rfl, _⟩ := Session.run_ok hrun
    simp [inTransaction, opened, Session.inTransaction]

theorem rollback_inTransaction (l : Link) : l.rollback.inTransaction = false := by
  cases hs : l.conn.session with
  | none =>
    have same : l.rollback = l := by simp only [rollback, submit, hs]
    rw [same]
    exact inTransaction_of_closed hs
  | some ses => simp [rollback, submit, hs, Session.rollback_eq, inTransaction, Session.inTransaction]

theorem rollbackAfter_lost (h : err.kind? = some .connectionLost) : l.rollbackAfter err = l :=
  if_pos h

theorem rollbackAfter_other (h : err.kind? ≠ some .connectionLost) :
    (l.rollbackAfter err).inTransaction = false := by
  rw [rollbackAfter, if_neg h]
  exact l.rollback_inTransaction

theorem Losses.shows (hf : Session.Plain f) {n : Nat} {xs : List Loss} (h : Losses f n l xs m) :
    Shows l [] 0 m := by
  induction h with
  | none l => exact .refl l
  | more submitted _ reconnected _ ih => exact (ih.after reconnected.shows).after (submitted.shows hf)

theorem Losses.not_inTransaction {n : Nat} {xs : List Loss} (h : Losses f n l xs m)
    (free : l.inTransaction = false) : m.inTransaction = false := by
  induction h with
  | none => exact free
  | more _ _ reconnected _ ih => exact ih reconnected.idle.not_inTransaction

theorem call_retry_not_inTransaction (hf : Session.Plain f) (free : l.inTransaction = false)
    (h : l.call .retry f = (.error err, m)) : m.inTransaction = false := by
  obtain ⟨xs, k, _, losses, decides, _⟩ := (call_iff_course f l _).1 h
  have hk := losses.not_inTransaction free
  cases decides with
  | reported submitted | mismatched submitted | looped submitted =>
    exact (submitted.failed_inTransaction hf).trans hk
  | exhausted _ _ _ failed => exact inTransaction_of_closed failed.reached.1

/-- The error of a call on a lost session that the policy has no try to replace. -/
def Stranded (l : Link) (err : PoolError) : Prop :=
  l.conn.policy.attempts = 0 ∧ ∃ e, e.kind = .connectionLost ∧ err = .fatal (.retryLoop 0 e)

/-- After a call within a transaction failed, a rollback is left out where it is needed only if the
policy has no try. -/
theorem call_report_inTransaction_iff (hf : Session.Plain f) (begun : l.inTransaction = true)
    (h : l.call .report f = (.error err, m)) :
    (m.rollbackAfter err).inTransaction = true ↔ l.Stranded err := by
  have ended {r : Bool} (hr : r = false) (distinct : ∀ e, err ≠ .fatal (.retryLoop 0 e)) :
      r = true ↔ l.Stranded err := by
    rw [hr]
    constructor
    · intro h
      cases h
    · rintro ⟨_, e, _, he⟩
      exact (distinct e he).elim
  cases reports_of_call h with
  | decided decides =>
    cases decides with
    | reported submitted kind =>
      refine ended (rollbackAfter_other ?_) fun _ he => by cases he
      rcases kind with hk | hk | hk <;> simp [PoolError.kind?, PoolError.native?, hk]
    | mismatched submitted kind =>
      refine ended (rollbackAfter_other ?_) fun _ he => by cases he
      simp [PoolError.kind?, PoolError.native?, FatalReason.native, kind]
    | exhausted submitted lost some failed =>
      refine ended ?_ fun _ he => by cases he
      have closed := inTransaction_of_closed failed.reached.1
      unfold rollbackAfter
      split
      · exact closed
      · exact m.rollback_inTransaction
    | looped submitted lost none =>
      rw [rollbackAfter_lost (by simp [PoolError.kind?, PoolError.native?, FatalReason.native, lost]),
        submitted.failed_inTransaction hf, begun]
      exact ⟨fun _ => ⟨none, _, lost, by rw [none]⟩, fun _ => rfl⟩
  | replaced submitted lost reconnected =>
    refine ended ?_ fun _ he => by cases he
    rw [rollbackAfter_lost (by simp [PoolError.kind?, PoolError.native?, lost])]
    exact reconnected.idle.not_inTransaction

theorem stranded_of_policy (same : m.conn.policy = l.conn.policy) : m.Stranded err ↔ l.Stranded err := by
  rw [Stranded, same, Stranded]

/-- An error that no server has reported. -/
theorem refused_inTransaction_iff (h : err.native? = none) :
    (l.rollbackAfter err).inTransaction = true ↔ l.Stranded err := by
  have hk : err.kind? ≠ some .connectionLost := by simp [PoolError.kind?, h]
  rw [rollbackAfter_other hk]
  constructor
  · intro hr
    cases hr
  · rintro ⟨_, e, _, he⟩
    rw [he] at h
    cases h

/-- An element that passes leaves the transaction open; one that fails ends it or is stranded. -/
theorem runElement_inTransaction (el : Element) (begun : l.inTransaction = true) :
    match l.runElement el with
    | (.ok _, m) => m.inTransaction = true ∧ m.conn.policy = l.conn.policy
    | (.error err, m) => (m.rollbackAfter err).inTransaction = true ↔ l.Stranded err := by
  have called {f : Session.Call Nat} {text : Session → Except NativeError String}
      (hf : Session.Runs f text) : match l.call .report f with
        | (.ok _, m) => m.inTransaction = true ∧ m.conn.policy = l.conn.policy
        | (.error err, m) => (m.rollbackAfter err).inTransaction = true ↔ l.Stranded err := by
    rcases h : l.call .report f with ⟨err | a, m⟩
    · exact call_report_inTransaction_iff hf.plain begun h
    · have submitted := call_report_ok h
      exact ⟨(submitted.ran_inTransaction hf).trans begun, policy_eq submitted.setup⟩
  cases el with
  | raw sql => exact called (Session.execute_runs sql)
  | bound s =>
    simp only [runElement, executeBoundWith]
    rcases l.withBound_cases .report s Session.executePrepared with
      ⟨p, _, h⟩ | ⟨vs, _, _, h⟩ | ⟨vs, _, _, h⟩
    · rw [h]
      exact refused_inTransaction_iff rfl
    · rw [h]
      exact refused_inTransaction_iff rfl
    · rw [h]
      exact called (Session.executePrepared_runs s.id vs)

theorem runElements_inTransaction (els : List Element) (begun : l.inTransaction = true) :
    match l.runElements els with
    | (.ok _, m) => m.inTransaction = true ∧ m.conn.policy = l.conn.policy
    | (.error err, m) => (m.rollbackAfter err).inTransaction = true ↔ l.Stranded err := by
  induction els generalizing l with
  | nil => exact ⟨begun, rfl⟩
  | cons el els ih =>
    have hone := runElement_inTransaction el begun
    rcases hel : l.runElement el with ⟨err | n, k⟩
    · rw [hel] at hone
      simp only [runElements, hel]
      exact hone
    · rw [hel] at hone
      obtain ⟨hk, same⟩ := hone
      have hrest := ih hk
      simp only [runElements, hel]
      rcases hels : k.runElements els with ⟨err | u, m⟩
      · rw [hels] at hrest
        exact hrest.trans (stranded_of_policy same)
      · rw [hels] at hrest
        exact ⟨hrest.1, hrest.2.trans same⟩

theorem commitOpen_inTransaction (begun : l.inTransaction = true) :
    match l.commitOpen with
    | (.ok _, m) => m.inTransaction = false
    | (.error err, m) => m.inTransaction = true ↔ l.Stranded err := by
  unfold commitOpen
  rcases h : l.call .report Session.commit with ⟨err | u, m⟩
  · exact call_report_inTransaction_iff Session.commit_plain begun h
  · cases call_report_ok h with
    | native opened ran =>
      obtain ⟨rfl, _⟩ := Session.commit_ok ran
      rfl

theorem begin_inTransaction {u : Unit} (h : l.call .retry Session.begin = (.ok u, m)) :
    m.inTransaction = true ∧ m.conn.policy = l.conn.policy := by
  obtain ⟨xs, k, _, losses, decides, _⟩ := (call_iff_course Session.begin l _).1 h
  have same := policy_eq (losses.shows Session.begin_plain).setup
  cases decides with
  | ok submitted =>
    refine ⟨?_, (policy_eq submitted.setup).trans same⟩
    cases submitted with
    | native opened ran =>
      obtain ⟨rfl, _⟩ := Session.begin_ok ran
      rfl

/-- Outside a transaction, what a call of `execute` ran is visible when it returns. -/
theorem execute_shows {sql : String} {n : Nat} (free : l.inTransaction = false)
    (h : l.execute sql = (.ok n, m)) : m.server.committed = l.server.committed ++ [sql] := by
  obtain ⟨xs, k, _, losses, decides, _⟩ := (call_iff_course (Session.execute sql) l _).1 h
  have shows := losses.shows (Session.execute_runs sql).plain
  have hk := losses.not_inTransaction free
  cases decides with
  | ok submitted =>
    cases submitted with
    | @native ses _ _ _ opened ran =>
      obtain ⟨t, ht, hrun⟩ := (Session.execute_runs sql).ok ran
      cases ht
      obtain ⟨_, rfl⟩ := Session.run_ok hrun
      have settled : ses.pending = none := by
        simpa [inTransaction, opened, Session.inTransaction] using hk
      simp only [settled, Option.isNone_none, if_true, shows.committed, List.append_nil]

theorem runTransaction_ok_inTransaction {t : Transaction} {u : Unit}
    (free : l.inTransaction = false) (h : l.runTransaction t = (.ok u, m)) :
    m.inTransaction = false := by
  cases ends_of_runTransaction h with
  | empty => exact free
  | passed begun ran committed =>
    have elements := runElements_inTransaction t.elements (begin_inTransaction begun).1
    rw [ran] at elements
    have closing := commitOpen_inTransaction elements.1
    rwa [committed] at closing

theorem runTransaction_error_inTransaction {t : Transaction} (free : l.inTransaction = false)
    (h : l.runTransaction t = (.error err, m)) : m.inTransaction = true ↔
      (∃ k, l.call .retry Session.begin = (.ok (), k)) ∧ l.Stranded err := by
  cases ends_of_runTransaction h with
  | unbegun begun =>
    -- the begin opened nothing
    rw [call_retry_not_inTransaction Session.begin_plain free begun]
    constructor
    · intro hr
      cases hr
    · rintro ⟨⟨_, hb⟩, _⟩
      cases begun.symm.trans hb
  | failed begun ran =>
    obtain ⟨inside, same⟩ := begin_inTransaction begun
    have elements := runElements_inTransaction t.elements inside
    rw [ran] at elements
    refine (elements.trans (stranded_of_policy same)).trans ?_
    exact ⟨fun hs => ⟨⟨_, begun⟩, hs⟩, And.right⟩
  | passed begun ran committed =>
    obtain ⟨inside, same⟩ := begin_inTransaction begun
    have elements := runElements_inTransaction t.elements inside
    rw [ran] at elements
    have closing := commitOpen_inTransaction elements.1
    rw [committed] at closing
    refine (closing.trans (stranded_of_policy (elements.2.trans same))).trans ?_
    exact ⟨fun hs => ⟨⟨_, begun⟩, hs⟩, And.right⟩

/-- A run of a transaction leaves it open in one case alone: it has begun, and then a loss stranded
it on a connection whose policy has no try at another session. In every other case a later call of
`execute`, whatever the server's script is by then, shows its text as soon as it goes well. -/
theorem left_open_iff_stranded (t : Transaction) (free : l.inTransaction = false) :
    let r := l.runTransaction t
    (r.2.inTransaction = true ↔
      (∃ k, l.call .retry Session.begin = (.ok (), k)) ∧ ∃ err, r.1 = .error err ∧ l.Stranded err) ∧
    (r.2.inTransaction = false → ∀ server sql n m,
      ({ r.2 with server } : Link).execute sql = (.ok n, m) →
        m.server.committed = server.committed ++ [sql]) := by
  intro r
  constructor
  · rcases hr : l.runTransaction t with ⟨err | u, m⟩
    · simp only [r, hr, Except.error.injEq, exists_eq_left']
      exact runTransaction_error_inTransaction free hr
    · simp only [r, hr, runTransaction_ok_inTransaction free hr]
      constructor
      · intro hr
        cases hr
      · rintro ⟨_, _, h, _⟩
        cases h
  · intro ended server sql n m h
    exact execute_shows (l := { r.2 with server }) ended h

/-- An open connection whose policy has no try, on a server that loses the second of two updates. -/
def untried : Link where
  conn := {
    login := ⟨"localhost", "3306", "trinity", "trinity", "world", false⟩
    side := .sync
    registry := {}
    policy := ⟨0, .zero⟩
    session := some { id := 1 } }
  server := { connects := 1, sessions := 1, rules := [⟨"guid = 2", 2013, some 1⟩] }

/-- The statement that runs next goes well and is seen by nobody. -/
theorem left_open_iff_stranded_untried :
    let m := (untried.runTransaction twoUpdates).2
    untried.inTransaction = false ∧ m.inTransaction = true ∧
      (m.execute "UPDATE c").1 = .ok 1 ∧ (m.execute "UPDATE c").2.server.committed = [] := by
  intro m
  have free : untried.inTransaction = false := by decide
  have failed : (untried.runTransaction twoUpdates).1 = .error (.fatal (.retryLoop 0
      ⟨2013, "injected failure for 'UPDATE money WHERE guid = 2'"⟩)) := by rfl
  have opened := (left_open_iff_stranded twoUpdates free).1.2
    ⟨⟨_, rfl⟩, _, failed, rfl, _, by decide, rfl⟩
  exact ⟨free, opened, by rfl, by rfl⟩

end QueryPool.Link
