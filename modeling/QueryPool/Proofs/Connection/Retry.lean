import QueryPool.Proofs.Connection.Frame

namespace QueryPool.Link

variable {α : Type} {f : Session.Call α} {l m l' : Link} {e : NativeError}

/-- A failed open told as a server's error: its own, or an unknown one with the text of the failure. -/
inductive Told : PoolError → NativeError → Prop where
  | native (e : NativeError) : Told (.database e) e
  | other {err : PoolError} (own : ∀ e, err ≠ .database e) :
      Told err { code := 1105, message := err.text }

theorem told_asNative (err : PoolError) : Told err err.asNative := by
  cases err with
  | database e => exact .native e
  | config | connection | binding | unprepared | deadlocked | fatal | closed => exact .other nofun

theorem Told.eq {err : PoolError} (h : Told err e) : e = err.asNative := by
  cases h with
  | native => rfl
  | other own =>
    cases err with
    | database e => exact absurd rfl (own e)
    | config | connection | binding | unprepared | deadlocked | fatal | closed => rfl

/-- A submission reaches the session, or fails for want of one. -/
inductive Submits (f : Session.Call α) (l : Link) : Except NativeError α → Link → Prop where
  | native {ses ses' : Session} {server : Server} {r : Except NativeError α}
      (opened : l.conn.session = some ses) (ran : f ses l.server = (r, ses', server)) :
      Submits f l r { conn := { l.conn with session := some ses' }, server }
  | closed (h : l.conn.session = none) :
      Submits f l (.error { code := 2006, message := "connection is closed" }) l

theorem submit_submits (f : Session.Call α) (l : Link) :
    Submits f l (l.submit f).1 (l.submit f).2 := by
  unfold submit
  split
  · rename_i h
    exact .closed h
  · rename_i ses h
    exact .native h rfl

theorem submits_of_submit {r : Except NativeError α} (h : l.submit f = (r, m)) : Submits f l r m := by
  have hs := submit_submits f l
  rwa [h] at hs

theorem Submits.submit {r : Except NativeError α} (h : Submits f l r m) : l.submit f = (r, m) := by
  cases h with
  | native opened ran => simp only [Link.submit, opened, ran]
  | closed h => simp only [Link.submit, h, Code.gone]

/-- A submission changes nothing of the connection but its session. -/
theorem Submits.conn {r : Except NativeError α} (h : Submits f l r m) :
    m.conn = { l.conn with session := m.conn.session } := by
  cases h with
  | native => rfl
  | closed => rfl

theorem Submits.setup {r : Except NativeError α} (h : Submits f l r m) :
    m.conn.setup = l.conn.setup := by
  rw [h.conn]
  rfl

theorem Submits.reconnects {r : Except NativeError α} (h : Submits f l r m) :
    m.conn.reconnects = l.conn.reconnects := by
  rw [h.conn]

/-- A lost session is let go before another is opened. -/
def disconnect (l : Link) : Link :=
  { l with conn := { l.conn.close with reconnecting := true } }

/-- Opens that failed one after the other, each counted and without a session left behind. -/
inductive Refused : Link → List PoolError → Link → Prop where
  | start (l : Link) : Refused l [] l
  | more {l m l' : Link} {err : PoolError} {errs : List PoolError}
      (failed : l.openSession = (.error err, m))
      (rest : Refused
        { m with conn := { m.conn.close with failedAttempts := m.conn.failedAttempts + 1 } } errs l') :
      Refused l (err :: errs) l'

/-- A reconnect in which the opens `errs`, fewer than `n`, failed before one succeeded. -/
def Reconnects (n : Nat) (l : Link) (errs : List PoolError) (l' : Link) : Prop :=
  ∃ m m' : Link, Refused l.disconnect errs m ∧ errs.length < n ∧ m.openSession = (.ok (), m') ∧
    l' = { m' with
      conn := { m'.conn with reconnecting := false, reconnects := m'.conn.reconnects + 1 } }

/-- A reconnect of which all `n` opens failed. -/
def GivesUp (n : Nat) (l : Link) (errs : List PoolError) (l' : Link) : Prop :=
  ∃ m : Link, Refused l.disconnect errs m ∧ errs.length = n ∧
    l' = { m with conn := { m.conn with reconnecting := false } }

theorem reopen_none {n : Nat} (h : l.reopen n e = (none, l')) :
    ∃ errs m, Refused l errs m ∧ errs.length < n ∧ m.openSession = (.ok (), l') := by
  induction n generalizing l e with
  | zero => cases h
  | succ n ih =>
    unfold reopen at h
    split at h
    · rename_i m ho
      cases h
      exact ⟨[], _, .start _, by simp, ho⟩
    · rename_i err m ho
      obtain ⟨errs, k, hr, hn, hk⟩ := ih h
      exact ⟨err :: errs, k, .more ho hr, by simpa using hn, hk⟩

theorem reopen_some {n : Nat} {last : NativeError} (h : l.reopen n e = (some last, l')) :
    ∃ errs, Refused l errs l' ∧ errs.length = n ∧ last = errs.getLast?.elim e PoolError.asNative := by
  induction n generalizing l e with
  | zero =>
    cases h
    exact ⟨[], .start _, rfl, rfl⟩
  | succ n ih =>
    unfold reopen at h
    split at h
    · cases h
    · rename_i err m ho
      obtain ⟨errs, hr, hn, hlast⟩ := ih h
      refine ⟨err :: errs, .more ho hr, by simpa using hn, ?_⟩
      cases errs with
      | nil => simpa using hlast
      | cons err' errs =>
        rw [List.getLast?_cons_cons]
        simpa only [List.getLast?_eq_some_getLast (List.cons_ne_nil err' errs),
          Option.elim_some] using hlast

theorem reconnect_ok {u : Unit} (h : l.reconnect e = (.ok u, l')) :
    ∃ errs, Reconnects l.conn.policy.attempts l errs l' := by
  unfold reconnect at h
  simp only at h
  split at h
  · rename_i m' hm
    cases h
    obtain ⟨errs, m, hr, hn, ho⟩ := reopen_none hm
    exact ⟨errs, m, m', hr, hn, ho, rfl⟩
  · cases h

theorem reconnect_error {err : PoolError} (h : l.reconnect e = (.error err, l')) :
    ∃ errs, GivesUp l.conn.policy.attempts l errs l' ∧
      err = .fatal (.reconnectExhausted l.conn.policy.attempts
        (errs.getLast?.elim e PoolError.asNative)) := by
  unfold reconnect at h
  simp only at h
  split at h
  · cases h
  · rename_i last m hm
    cases h
    obtain ⟨errs, hr, hn, hlast⟩ := reopen_some hm
    exact ⟨errs, ⟨m, hr, hn, rfl⟩, by rw [hlast]⟩

theorem Refused.reopen_none {errs : List PoolError} {n : Nat} (h : Refused l errs m)
    (few : errs.length < n) (opened : m.openSession = (.ok (), l')) :
    l.reopen n e = (none, l') := by
  induction h generalizing n e with
  | start =>
    obtain ⟨n, rfl⟩ := Nat.exists_eq_add_one.2 few
    simp only [reopen, opened]
  | more failed _ ih =>
    simp only [List.length_cons] at few
    obtain ⟨n, rfl⟩ := Nat.exists_eq_add_one.2 (by omega : 0 < n)
    simp only [reopen, failed]
    exact ih (by omega) opened

theorem Refused.reopen_some {errs : List PoolError} {n : Nat} (h : Refused l errs l')
    (all : errs.length = n) :
    l.reopen n e = (some (errs.getLast?.elim e PoolError.asNative), l') := by
  subst all
  induction h generalizing e with
  | start => rfl
  | @more _ _ _ err errs failed _ ih =>
    simp only [List.length_cons, reopen, failed, ih]
    cases errs with
    | nil => rfl
    | cons err' errs =>
      rw [List.getLast?_cons_cons]
      simp only [List.getLast?_eq_some_getLast (List.cons_ne_nil err' errs), Option.elim_some]

theorem Reconnects.reconnect {errs : List PoolError}
    (h : Reconnects l.conn.policy.attempts l errs l') : l.reconnect e = (.ok (), l') := by
  obtain ⟨m, m', refused, few, opened, rfl⟩ := h
  have hr : l.disconnect.reopen l.conn.policy.attempts e = (none, m') :=
    refused.reopen_none few opened
  simp only [disconnect] at hr
  simp only [Link.reconnect, hr]

theorem GivesUp.reconnect {errs : List PoolError}
    (h : GivesUp l.conn.policy.attempts l errs l') :
    l.reconnect e = (.error (.fatal (.reconnectExhausted l.conn.policy.attempts
      (errs.getLast?.elim e PoolError.asNative))), l') := by
  obtain ⟨m, refused, all, rfl⟩ := h
  have hr := refused.reopen_some (e := e) all
  simp only [disconnect] at hr
  simp only [Link.reconnect, hr]

theorem Refused.induct {P : Link → Prop} {errs : List PoolError} (h : Refused l errs l') (hl : P l)
    (step : ∀ l : Link, P l → P { l.openSession.2 with conn := { l.openSession.2.conn.close with
      failedAttempts := l.openSession.2.conn.failedAttempts + 1 } }) : P l' := by
  induction h with
  | start => exact hl
  | more failed _ ih =>
    apply ih
    have hs := step _ hl
    rwa [failed] at hs

/-- However often opens failed, nothing ran and nothing is left open. -/
theorem Refused.reached {errs : List PoolError} (h : Refused l errs l')
    (closed : l.conn.session = none) :
    l'.conn.session = none ∧ l'.conn.setup = l.conn.setup ∧
      l'.conn.reconnects = l.conn.reconnects ∧ l'.server.journal = l.server.journal ∧
      l'.server.counts = l.server.counts := by
  refine h.induct (P := fun m => m.conn.session = none ∧ m.conn.setup = l.conn.setup ∧
    m.conn.reconnects = l.conn.reconnects ∧ m.server.journal = l.server.journal ∧
    m.server.counts = l.server.counts) ⟨closed, rfl, rfl, rfl, rfl⟩ ?_
  intro m hm
  have hr := m.openSession_reached
  exact ⟨rfl, hr.setup.trans hm.2.1, hr.reconnects.trans hm.2.2.1, hr.journal.trans hm.2.2.2.1,
    hr.counts.trans hm.2.2.2.2⟩

theorem Reconnects.reached {n : Nat} {errs : List PoolError} (h : Reconnects n l errs l') :
    l'.conn.setup = l.conn.setup ∧ l'.conn.reconnects = l.conn.reconnects + 1 ∧
      l'.server.journal = l.server.journal ∧ l'.server.counts = l.server.counts := by
  obtain ⟨m, m', hr, _, ho, rfl⟩ := h
  obtain ⟨_, hs, hc, hj, hcounts⟩ := hr.reached rfl
  have hm := m.openSession_reached
  rw [ho] at hm
  refine ⟨hm.setup.trans hs, ?_, hm.journal.trans hj, hm.counts.trans hcounts⟩
  change m'.conn.reconnects + 1 = _
  rw [hm.reconnects, hc]
  rfl

theorem GivesUp.reached {n : Nat} {errs : List PoolError} (h : GivesUp n l errs l') :
    l'.conn.session = none ∧ l'.conn.setup = l.conn.setup ∧
      l'.conn.reconnects = l.conn.reconnects ∧ l'.server.journal = l.server.journal ∧
      l'.server.counts = l.server.counts := by
  obtain ⟨m, hr, _, rfl⟩ := h
  exact hr.reached rfl

/-- A policy that has a try gives up on the failure of its last open. -/
theorem reconnect_exhausted {err : PoolError} (some : 0 < l.conn.policy.attempts)
    (h : l.reconnect e = (.error err, l')) :
    ∃ errs last native, GivesUp l.conn.policy.attempts l (errs ++ [last]) l' ∧
      l'.conn.isOpen = false ∧ Told last native ∧
      err = .fatal (.reconnectExhausted l.conn.policy.attempts native) := by
  obtain ⟨errs, failed, rfl⟩ := reconnect_error h
  have closed : l'.conn.isOpen = false := by simp [Connection.isOpen, failed.reached.1]
  rcases errs.eq_nil_or_concat with rfl | ⟨errs, last, rfl⟩
  · obtain ⟨_, _, hlen, _⟩ := failed
    simp only [List.length_nil] at hlen
    omega
  · rw [List.concat_eq_append] at failed ⊢
    rw [List.getLast?_concat]
    exact ⟨errs, last, _, failed, closed, told_asNative last, rfl⟩

/-- A submission that was lost, and the opens that failed before one succeeded. -/
structure Loss where
  error : NativeError
  errs : List PoolError

/-- Lost submissions of a call, each with one successful reconnect after it. -/
inductive Losses (f : Session.Call α) (n : Nat) : Link → List Loss → Link → Prop where
  | none (l : Link) : Losses f n l [] l
  | more {l m m' l' : Link} {x : Loss} {xs : List Loss} (submitted : Submits f l (.error x.error) m)
      (lost : x.error.kind = .connectionLost) (reconnected : Reconnects n m x.errs m')
      (rest : Losses f n m' xs l') : Losses f n l (x :: xs) l'

/-- The submission that decides a call, made when `left` of its `n` reconnects are left. -/
inductive Decides (f : Session.Call α) (n left : Nat) (l : Link) : Outcome α → Prop where
  | ok {a : α} {m : Link} (submitted : Submits f l (.ok a) m) : Decides f n left l (.ok a, m)
  | reported {e : NativeError} {m : Link} (submitted : Submits f l (.error e) m)
      (kind : e.kind = .deadlock ∨ e.kind = .data ∨ e.kind = .other) :
      Decides f n left l (.error (.database e), m)
  | mismatched {e : NativeError} {m : Link} (submitted : Submits f l (.error e) m)
      (kind : e.kind = .schema) : Decides f n left l (.error (.fatal (.schemaMismatch e)), m)
  | exhausted {e native : NativeError} {errs : List PoolError} {last : PoolError} {m l' : Link}
      (submitted : Submits f l (.error e) m) (lost : e.kind = .connectionLost) (some : 0 < left)
      (failed : GivesUp n m (errs ++ [last]) l') (closed : l'.conn.isOpen = false)
      (told : Told last native) :
      Decides f n left l (.error (.fatal (.reconnectExhausted n native)), l')
  | looped {e : NativeError} {m : Link} (submitted : Submits f l (.error e) m)
      (lost : e.kind = .connectionLost) (none : left = 0) :
      Decides f n left l (.error (.fatal (.retryLoop n e)), m)

/-- The whole course of a call within `left` reconnects of a policy that allows `n`. -/
def Course (f : Session.Call α) (n left : Nat) (l : Link) (r : Outcome α) : Prop :=
  ∃ (xs : List Loss) (m : Link), xs.length ≤ left ∧ Losses f n l xs m ∧
    Decides f n (left - xs.length) m r ∧
    r.2.conn.reconnects = l.conn.reconnects + xs.length

theorem Decides.reconnects {n left : Nat} {r : Outcome α} (h : Decides f n left l r) :
    r.2.conn.reconnects = l.conn.reconnects := by
  cases h with
  | ok submitted | reported submitted | mismatched submitted | looped submitted =>
    exact submitted.reconnects
  | exhausted submitted _ _ failed => exact failed.reached.2.2.1.trans submitted.reconnects

private theorem course_of_decides {n left : Nat} {r : Outcome α} (h : Decides f n left l r) :
    Course f n left l r :=
  ⟨[], l, by simp, .none l, by simpa using h, by simpa using h.reconnects⟩

/-- A call follows its course. -/
theorem persist_course (f : Session.Call α) {n left : Nat} {l : Link}
    (hn : l.conn.policy.attempts = n) (hl : left ≤ n) : Course f n left l (l.persist .retry f left) := by
  -- a submission that is lost and followed by a reconnect is one loss more and one try less
  fun_induction persist .retry f left l with
  | case1 left l a m hs => exact course_of_decides (.ok (submits_of_submit hs))
  | case2 l e m hs hk =>
    have submitted := submits_of_submit hs
    have hm : m.conn.policy.attempts = n := by rw [policy_eq submitted.setup, hn]
    rw [hm]
    exact course_of_decides (.looped submitted hk rfl)
  | case3 l e m hs hk left err l' hr =>
    have submitted := submits_of_submit hs
    have hm : m.conn.policy.attempts = n := by rw [policy_eq submitted.setup, hn]
    -- a try was left, so the policy has one
    obtain ⟨errs, last, native, failed, closed, told, rfl⟩ := reconnect_exhausted (by omega) hr
    rw [hm] at failed ⊢
    exact course_of_decides (.exhausted submitted hk (by omega) failed closed told)
  | case4 l e m hs hk left l' hr ho => cases ho
  | case5 l e m hs hk left l' hr ho ih =>
    have submitted := submits_of_submit hs
    have hm : m.conn.policy.attempts = n := by rw [policy_eq submitted.setup, hn]
    obtain ⟨errs, reconnected⟩ := reconnect_ok hr
    rw [hm] at reconnected
    have hp : l'.conn.policy.attempts = n := by rw [policy_eq reconnected.reached.1, hm]
    obtain ⟨xs, k, hxs, rest, hd, hc⟩ := ih hp (by omega)
    refine ⟨⟨e, errs⟩ :: xs, k, by simpa using hxs, .more submitted hk reconnected rest, ?_, ?_⟩
    · simpa using hd
    · rw [hc, reconnected.reached.2.1, submitted.reconnects, List.length_cons]
      omega
  | case6 left l e m hs hk => exact course_of_decides (.mismatched (submits_of_submit hs) hk)
  | case7 left l e m hs hk => exact course_of_decides (.reported (submits_of_submit hs) (.inl hk))
  | case8 left l e m hs hk =>
    exact course_of_decides (.reported (submits_of_submit hs) (.inr (.inl hk)))
  | case9 left l e m hs hk =>
    exact course_of_decides (.reported (submits_of_submit hs) (.inr (.inr hk)))

theorem Decides.persist {n left : Nat} {r : Outcome α} (h : Decides f n left l r)
    (hn : l.conn.policy.attempts = n) : l.persist .retry f left = r := by
  cases h with
  | ok submitted => simp only [Link.persist, submitted.submit]
  | reported submitted kind =>
    rcases kind with hk | hk | hk <;> simp only [Link.persist, submitted.submit, hk]
  | mismatched submitted kind => simp only [Link.persist, submitted.submit, kind]
  | @exhausted _ _ errs last m l' submitted lost some failed _ told =>
    have hm : m.conn.policy.attempts = n := by rw [policy_eq submitted.setup, hn]
    obtain ⟨left, rfl⟩ := Nat.exists_eq_add_one.2 some
    subst hn
    rw [← hm] at failed ⊢
    rw [told.eq]
    simp only [Link.persist, submitted.submit, lost, failed.reconnect, List.getLast?_concat,
      Option.elim_some]
  | looped submitted lost none =>
    subst none
    simp only [Link.persist, submitted.submit, lost, policy_eq submitted.setup, hn]

/-- The course of a call determines its outcome. -/
theorem Course.persist {n left : Nat} {r : Outcome α} (h : Course f n left l r)
    (hn : l.conn.policy.attempts = n) : l.persist .retry f left = r := by
  obtain ⟨xs, m, few, losses, decides, -⟩ := h
  induction losses generalizing left with
  | none => exact decides.persist hn
  | @more l m m' _ x xs submitted lost reconnected _ ih =>
    simp only [List.length_cons] at few decides
    obtain ⟨left, rfl⟩ := Nat.exists_eq_add_one.2 (by omega : 0 < left)
    have hm : m.conn.policy.attempts = n := by rw [policy_eq submitted.setup, hn]
    have hm' : m'.conn.policy.attempts = n := by rw [policy_eq reconnected.reached.1, hm]
    subst hn
    rw [← hm] at reconnected
    rw [Link.persist]
    simp only [submitted.submit, lost, reconnected.reconnect]
    exact ih hm' (by omega) (by simpa using decides)

theorem call_iff_course (f : Session.Call α) (l : Link) (r : Outcome α) :
    l.call .retry f = r ↔ Course f l.conn.policy.attempts l.conn.policy.attempts l r := by
  constructor
  · rintro rfl
    exact persist_course f rfl (Nat.le_refl _)
  · intro h
    exact h.persist rfl

/-- What a query gives for the table that the session answered: errors as they are, nothing for a
table without rows, and otherwise a cursor on the first row, with the others still to come. -/
inductive Shown : Outcome Table → Outcome (Option Cursor) → Prop where
  | failed (err : PoolError) (l : Link) : Shown (.error err, l) (.error err, l)
  | nothing (columns : List String) (l : Link) : Shown (.ok ⟨columns, []⟩, l) (.ok none, l)
  | rows (columns : List String) (row : Row) (rest : List Row) (l : Link) :
      Shown (.ok ⟨columns, row :: rest⟩, l)
        (.ok (some { columns, rowCount := rest.length + 1, current := row, rest }), l)

theorem cursor_shown (r : Outcome Table) : Shown r (cursor r) := by
  obtain ⟨result, l⟩ := r
  cases result with
  | error err => exact .failed err l
  | ok table =>
    obtain ⟨columns, rows⟩ := table
    cases rows with
    | nil => exact .nothing columns l
    | cons row rest => exact .rows columns row rest l

theorem Shown.eq {r : Outcome Table} {shown : Outcome (Option Cursor)} (h : Shown r shown) :
    cursor r = shown := by
  cases h with
  | failed | nothing | rows => rfl

theorem cursor_iff_course (f : Session.Call Table) (l : Link) (r : Outcome (Option Cursor)) :
    cursor (l.call .retry f) = r ↔
      ∃ r', Course f l.conn.policy.attempts l.conn.policy.attempts l r' ∧ Shown r' r := by
  constructor
  · rintro rfl
    exact ⟨_, (call_iff_course f l _).1 rfl, cursor_shown _⟩
  · rintro ⟨r', h, shown⟩
    rw [(call_iff_course f l r').2 h]
    exact shown.eq

/-- A call that passes the checks made before it is submitted at most once more than the policy has
tries, and its first result that is no lost session decides; without one it ends fatally. -/
theorem outcome_iff_course (l : Link) :
    let n := l.conn.policy.attempts
    (∀ sql r, l.execute sql = r ↔ Course (Session.execute sql) n n l r) ∧
    (∀ sql r, l.query sql = r ↔ ∃ r', Course (Session.query sql) n n l r' ∧ Shown r' r) ∧
    (∀ s vs, s.values = .ok vs → l.conn.isPrepared s.id = true →
      (∀ r, l.executeBound s = r ↔ Course (Session.executePrepared s.id vs) n n l r) ∧
      (∀ r, l.queryBound s = r ↔
        ∃ r', Course (Session.queryPrepared s.id vs) n n l r' ∧ Shown r' r)) ∧
    (∀ r, l.ping = r ↔ Course Session.ping n n l r) := by
  refine ⟨fun sql => call_iff_course _ l, fun sql => cursor_iff_course _ l, fun s vs hv hp => ?_,
    call_iff_course _ l⟩
  constructor
  · intro r
    simp only [executeBound, executeBoundWith, withBound, hv, hp, if_true]
    exact call_iff_course _ l r
  · intro r
    simp only [queryBound, withBound, hv, hp, if_true]
    exact cursor_iff_course _ l r

/-- One value for the one slot of `SELECT ?`. -/
def boundSelect : Statement := (Statement.ofTemplate ⟨1, "SELECT ?", .both⟩).bind 0 (.int 7)

/-- A connection without a session that knows `SELECT ?` and has one try at a lost session, on a
server that loses every session the statement runs on. -/
def losing : Link where
  conn := {
    login := ⟨"localhost", "3306", "trinity", "trinity", "world", false⟩
    side := .sync
    registry := ({} : Registry).insert boundSelect.template
    policy := ⟨1, .zero⟩
    prepared := ({} : IdMap Nat).insert (1, 1) }
  server := { rules := [⟨"SELECT ? [", 2013, none⟩] }

/-- The same on a server that counts three placeholders in `SELECT ?`. -/
def miscounted : Link := { losing with server := { counts := ({} : IdMap Nat).insert (1, 3) } }

/-- The same on a server that runs everything. -/
def regained : Link := { losing with server := {} }

theorem outcome_iff_course_losing :
    boundSelect.values = .ok [.int 7] ∧ losing.conn.isPrepared boundSelect.id = true ∧
      Course (Session.executePrepared boundSelect.id [.int 7]) losing.conn.policy.attempts
        losing.conn.policy.attempts losing (losing.executeBound boundSelect) ∧
      (losing.executeBound boundSelect).1 = .error (.fatal (.retryLoop 1
        ⟨2013, "injected failure for 'SELECT ? [Int(7)]'"⟩)) ∧
      Course (Session.executePrepared boundSelect.id [.int 7]) miscounted.conn.policy.attempts
        miscounted.conn.policy.attempts miscounted (miscounted.executeBound boundSelect) ∧
      (miscounted.executeBound boundSelect).1 = .error (.fatal (.reconnectExhausted 1 ⟨1105,
        "Configuration error: statement 1 declares 1 parameters, server counts 3"⟩)) ∧
      (∃ r', Course (Session.queryPrepared boundSelect.id [.int 7]) regained.conn.policy.attempts
        regained.conn.policy.attempts regained r' ∧ Shown r' (regained.queryBound boundSelect)) ∧
      (regained.queryBound boundSelect).1 =
        .ok (some { columns := ["c0"], rowCount := 1, current := [.int 7], rest := [] }) := by
  have hv : boundSelect.values = .ok [.int 7] := by rfl
  have hp : losing.conn.isPrepared boundSelect.id = true := by rfl
  have lost := ((outcome_iff_course losing).2.2.1 boundSelect _ hv hp).1
  have exhausted := ((outcome_iff_course miscounted).2.2.1 boundSelect _ hv hp).1
  have answered := ((outcome_iff_course regained).2.2.1 boundSelect _ hv hp).2
  exact ⟨hv, hp, (lost _).1 rfl, by rfl, (exhausted _).1 rfl, by rfl, (answered _).1 rfl, by rfl⟩

end QueryPool.Link
