import QueryPool.Proofs.Connection.Idle

namespace QueryPool.Link

variable {α : Type} {f : Session.Call α} {l m : Link} {e : NativeError}

/-- What a call within a transaction makes of the result of its one submission. -/
def report (result : Except NativeError α) (l : Link) : Outcome α :=
  match result with
  | .ok a => (.ok a, l)
  | .error e =>
    match e.kind with
    | .connectionLost =>
      match l.conn.policy.attempts with
      | 0 => (.error (.fatal (.retryLoop 0 e)), l)
      | _ + 1 =>
        match l.reconnect e with
        | (.error err, l) => (.error err, l)
        | (.ok (), l) => (.error (.database e), l)
    | .schema => (.error (.fatal (.schemaMismatch e)), l)
    | .deadlock | .data | .other => (.error (.database e), l)

theorem call_report (f : Session.Call α) (l : Link) :
    l.call .report f = (l.submit f).2.report (l.submit f).1 := by
  have same : (l.submit f).2.conn.policy = l.conn.policy := policy_eq (l.submit_submits f).setup
  rcases hs : l.submit f with ⟨e | a, m⟩
  · rw [hs] at same
    simp only at same
    simp only [call, report, same]
    cases hn : l.conn.policy.attempts with
    | zero => cases hk : e.kind <;> simp only [persist, hs, hk, same, hn]
    | succ n =>
      cases hk : e.kind with
      | connectionLost =>
        rcases hr : m.reconnect e with ⟨err | u, l'⟩ <;> simp only [persist, hs, hk, hr]
      | deadlock | data | schema | other => simp only [persist, hs, hk]
  · simp only [call, report, persist, hs]

/-- The ways in which a call within a transaction ends: those of any call without a reconnect left
to spend on its repetition, and the loss of a session that another one has replaced. -/
inductive Reports (f : Session.Call α) (l : Link) : Outcome α → Prop where
  | decided {r : Outcome α} (h : Decides f l.conn.policy.attempts l.conn.policy.attempts l r) :
      Reports f l r
  | replaced {e : NativeError} {m l' : Link} {errs : List PoolError}
      (submitted : Submits f l (.error e) m) (lost : e.kind = .connectionLost)
      (reconnected : Reconnects m.conn.policy.attempts m errs l') :
      Reports f l (.error (.database e), l')

theorem call_reports (f : Session.Call α) (l : Link) : Reports f l (l.call .report f) := by
  have submitted := l.submit_submits f
  have same : (l.submit f).2.conn.policy = l.conn.policy := policy_eq submitted.setup
  rw [call_report]
  rcases hs : l.submit f with ⟨e | a, m⟩
  · rw [hs] at submitted same
    simp only at submitted same
    cases hk : e.kind with
    | connectionLost =>
      cases hn : m.conn.policy.attempts with
      | zero =>
        simp only [report, hk, hn]
        rw [same] at hn
        have h := Decides.looped (n := l.conn.policy.attempts) submitted hk hn
        rw [hn] at h
        exact .decided (by rwa [hn])
      | succ n =>
        simp only [report, hk, hn]
        rcases hr : m.reconnect e with ⟨err | u, l'⟩
        · obtain ⟨errs, last, native, failed, closed, told, rfl⟩ := reconnect_exhausted (by omega) hr
          rw [same] at failed hn ⊢
          exact .decided (.exhausted submitted hk (by omega) failed closed told)
        · obtain ⟨errs, reconnected⟩ := reconnect_ok hr
          exact .replaced submitted hk reconnected
    | deadlock =>
      simp only [report, hk]
      exact .decided (.reported submitted (.inl hk))
    | data =>
      simp only [report, hk]
      exact .decided (.reported submitted (.inr (.inl hk)))
    | schema =>
      simp only [report, hk]
      exact .decided (.mismatched submitted hk)
    | other =>
      simp only [report, hk]
      exact .decided (.reported submitted (.inr (.inr hk)))
  · rw [hs] at submitted
    exact .decided (.ok submitted)

theorem reports_of_call {r : Outcome α} (h : l.call .report f = r) : Reports f l r :=
  h ▸ call_reports f l

theorem runElements_append (els els' : List Element) (l : Link) :
    l.runElements (els ++ els') = match l.runElements els with
      | (.ok (), m) => m.runElements els'
      | (.error err, m) => (.error err, m) := by
  induction els generalizing l with
  | nil => rfl
  | cons el els ih =>
    simp only [List.cons_append, runElements]
    rcases l.runElement el with ⟨err | n, m⟩
    · rfl
    · exact ih m

/-- The ways in which a run of a transaction ends: without a call, with its begin, with an element,
or with its commit. -/
inductive Ends (t : Transaction) (l : Link) : Outcome Unit → Prop where
  | empty (none : t.elements = []) : Ends t l (.ok (), l)
  | unbegun {err : PoolError} {m : Link} (begun : l.call .retry Session.begin = (.error err, m)) :
      Ends t l (.error err, m)
  | failed {err : PoolError} {k m : Link} (begun : l.call .retry Session.begin = (.ok (), k))
      (ran : k.runElements t.elements = (.error err, m)) : Ends t l (.error err, m.rollbackAfter err)
  | passed {k m : Link} {r : Outcome Unit} (begun : l.call .retry Session.begin = (.ok (), k))
      (ran : k.runElements t.elements = (.ok (), m)) (committed : m.commitOpen = r) : Ends t l r

theorem runTransaction_ends (t : Transaction) (l : Link) : Ends t l (l.runTransaction t) := by
  by_cases none : t.elements = []
  · have same : l.runTransaction t = (.ok (), l) := by simp [runTransaction, none]
    rw [same]
    exact .empty none
  · have filled : t.elements.isEmpty = false := by simpa using none
    simp only [runTransaction, filled, Bool.false_eq_true, if_false]
    rcases hb : l.call .retry Session.begin with ⟨err | u, k⟩
    · exact .unbegun hb
    · rcases he : k.runElements t.elements with ⟨err | u, m⟩
      · simp only [he]
        exact .failed hb he
      · simp only [he]
        exact .passed hb he rfl

theorem ends_of_runTransaction {t : Transaction} {r : Outcome Unit} (h : l.runTransaction t = r) :
    Ends t l r := h ▸ runTransaction_ends t l

end QueryPool.Link
