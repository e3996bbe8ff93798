import QueryPool.Proofs.Connection.Retry
import QueryPool.Proofs.Connection.Run

namespace QueryPool.Link

variable {α : Type} {P : Link → Prop} {l : Link}

/-- A property that whatever happens within a call keeps. -/
structure Enduring (P : Link → Prop) : Prop where
  submits {α : Type} {f : Session.Call α} {r : Except NativeError α} {l m : Link} :
    Session.Plain f → Submits f l r m → P l → P m
  reconnects {n : Nat} {l l' : Link} {errs : List PoolError} : Reconnects n l errs l' → P l → P l'
  givesUp {n : Nat} {l l' : Link} {errs : List PoolError} : GivesUp n l errs l' → P l → P l'

/-- A property that preparing and closing keep as well. -/
structure Steady (P : Link → Prop) : Prop extends Enduring P where
  prepares {l l' : Link} : Prepares l l' → P l → P l'
  close {l : Link} : P l → P l.close

/-- Opens that fail keep what an open keeps, if it does not see the connection's own books. -/
theorem Refused.keeps {errs : List PoolError} {l' : Link} (h : Refused l errs l')
    (books : ∀ (l : Link) session reconnecting reconnects failedAttempts, P l →
      P { l with conn := { l.conn with session, reconnecting, reconnects, failedAttempts } })
    (opens : ∀ l : Link, P l → P l.openSession.2) (hl : P l) : P l' :=
  h.induct hl fun m hm => books m.openSession.2 none _ _ _ (opens m hm)

theorem Reconnects.keeps {n : Nat} {errs : List PoolError} {l' : Link} (h : Reconnects n l errs l')
    (books : ∀ (l : Link) session reconnecting reconnects failedAttempts, P l →
      P { l with conn := { l.conn with session, reconnecting, reconnects, failedAttempts } })
    (opens : ∀ l : Link, P l → P l.openSession.2) (hl : P l) : P l' := by
  obtain ⟨m, m', refused, _, opened, rfl⟩ := h
  have hm : P m := refused.keeps books opens (books l none true _ _ hl)
  have hm' : P m' := by
    have ho := opens m hm
    rwa [opened] at ho
  exact books m' m'.conn.session false _ _ hm'

theorem GivesUp.keeps {n : Nat} {errs : List PoolError} {l' : Link} (h : GivesUp n l errs l')
    (books : ∀ (l : Link) session reconnecting reconnects failedAttempts, P l →
      P { l with conn := { l.conn with session, reconnecting, reconnects, failedAttempts } })
    (opens : ∀ l : Link, P l → P l.openSession.2) (hl : P l) : P l' := by
  obtain ⟨m, refused, _, rfl⟩ := h
  have hm : P m := refused.keeps books opens (books l none true _ _ hl)
  exact books m m.conn.session false _ _ hm

namespace Enduring

theorem persist (h : Enduring P) {f : Session.Call α} (hf : Session.Plain f) (onLoss : OnLoss)
    (left : Nat) (hl : P l) : P (l.persist onLoss f left).2 := by
  fun_induction Link.persist onLoss f left l with
  | case1 left l a m hs => exact h.submits hf (submits_of_submit hs) hl
  | case2 l e m hs hk => exact h.submits hf (submits_of_submit hs) hl
  | case3 l e m hs hk left err l' hr =>
    have hm := h.submits hf (submits_of_submit hs) hl
    obtain ⟨errs, failed, _⟩ := reconnect_error hr
    exact h.givesUp failed hm
  | case4 l e m hs hk left l' hr =>
    have hm := h.submits hf (submits_of_submit hs) hl
    obtain ⟨errs, reconnected⟩ := reconnect_ok hr
    exact h.reconnects reconnected hm
  | case5 l e m hs hk left l' hr ho ih =>
    have hm := h.submits hf (submits_of_submit hs) hl
    obtain ⟨errs, reconnected⟩ := reconnect_ok hr
    cases ho
    exact ih (h.reconnects reconnected hm)
  | case6 left l e m hs | case7 left l e m hs | case8 left l e m hs | case9 left l e m hs =>
    exact h.submits hf (submits_of_submit hs) hl

theorem call (h : Enduring P) {f : Session.Call α} (hf : Session.Plain f) (onLoss : OnLoss)
    (hl : P l) : P (l.call onLoss f).2 :=
  h.persist hf onLoss l.conn.policy.attempts hl

theorem withBound (h : Enduring P) {g : Nat → List Value → Session.Call α}
    (hg : ∀ id vs, Session.Plain (g id vs)) (onLoss : OnLoss) (s : Statement) (hl : P l) :
    P (l.withBound onLoss s g).2 := by
  rcases l.withBound_cases onLoss s g with ⟨p, _, hb⟩ | ⟨vs, _, _, hb⟩ | ⟨vs, _, _, hb⟩
  · rw [hb]
    exact hl
  · rw [hb]
    exact hl
  · rw [hb]
    exact h.call (hg s.id vs) onLoss hl

theorem runElement (h : Enduring P) (el : Element) (hl : P l) : P (l.runElement el).2 := by
  cases el with
  | raw sql => exact h.call (Session.execute_runs sql).plain .report hl
  | bound s =>
    exact h.withBound (fun id vs => (Session.executePrepared_runs id vs).plain) .report s hl

theorem runElements (h : Enduring P) (els : List Element) (hl : P l) : P (l.runElements els).2 := by
  induction els generalizing l with
  | nil => exact hl
  | cons el els ih =>
    have hone := h.runElement el hl
    unfold Link.runElements
    split
    · rename_i n m hm
      rw [hm] at hone
      exact ih hone
    · rename_i err m hm
      rw [hm] at hone
      exact hone

theorem rollbackAfter (h : Enduring P) (err : PoolError) (hl : P l) : P (l.rollbackAfter err) := by
  unfold Link.rollbackAfter
  split
  · exact hl
  · exact h.submits Session.rollback_plain (l.submit_submits Session.rollback) hl

theorem commitOpen (h : Enduring P) (hl : P l) : P l.commitOpen.2 := by
  have hc := h.call Session.commit_plain .report hl
  unfold Link.commitOpen
  split
  · rename_i m hm
    rw [hm] at hc
    exact hc
  · rename_i err m hm
    rw [hm] at hc
    exact h.rollbackAfter err hc

theorem runTransaction (h : Enduring P) (t : Transaction) (hl : P l) : P (l.runTransaction t).2 := by
  have hb := h.call Session.begin_plain .retry hl
  unfold Link.runTransaction
  split
  · exact hl
  · split
    · rename_i err m hm
      rw [hm] at hb
      exact hb
    · rename_i m hm
      rw [hm] at hb
      have hels := h.runElements t.elements hb
      split
      · rename_i err m' hm'
        rw [hm'] at hels
        exact h.rollbackAfter err hels
      · rename_i m' hm'
        rw [hm'] at hels
        exact h.commitOpen hels

theorem restarting (h : Enduring P) (t : Transaction) (left : Nat) (hl : P l) :
    P (l.restarting t left).2 := by
  have hone := h.runTransaction t hl
  fun_induction Link.restarting t left l with
  | case1 l e m hm _ | case3 left l e m hm _ =>
    rw [hm] at hone
    exact hone
  | case2 l e m hm _ left ih =>
    rw [hm] at hone
    exact ih hone (h.runTransaction t hone)
  | case4 => exact hone

theorem retryDeadlocks (h : Enduring P) (t : Transaction) (limit : Duration) (n : Nat) (hl : P l) :
    P (l.retryDeadlocks t limit n).2 := by
  fun_induction Link.retryDeadlocks t limit n l with
  | case1 l => exact hl
  | case2 n l e m hm _ ih =>
    have hone := h.restarting t l.conn.policy.attempts hl
    rw [← attempt, hm] at hone
    exact ih hone
  | case3 n l e m hm _ =>
    have hone := h.restarting t l.conn.policy.attempts hl
    rw [← attempt, hm] at hone
    exact hone
  | case4 n l _ => exact h.restarting t l.conn.policy.attempts hl

theorem commit (h : Enduring P) (t : Transaction) (b : Budget) (hl : P l) :
    P (l.commit t b).1.2 := by
  have hone := h.restarting t l.conn.policy.attempts hl
  rw [← attempt] at hone
  unfold Link.commit
  split
  · rename_i e m hm
    rw [hm] at hone
    split
    · exact h.retryDeadlocks t b.limit b.retries hone
    · exact hone
  · exact hone

end Enduring

/-- Every call but a direct open, about which a property may say more. -/
theorem Steady.perform (h : Steady P) (q : Request) (opened : q = .openSession → P l.openSession.2)
    (hl : P l) : P (l.perform q).2 := by
  cases q with
  | openSession => exact opened rfl
  | close => exact h.close hl
  | prepareStatements => exact h.prepares l.prepareStatements_prepares hl
  | ping => exact h.toEnduring.call Session.ping_plain .retry hl
  | execute sql => exact h.toEnduring.call (Session.execute_runs sql).plain .retry hl
  | query sql => exact h.toEnduring.call (Session.query_runs sql).plain .retry hl
  | executeBound s =>
    exact h.toEnduring.withBound (fun id vs => (Session.executePrepared_runs id vs).plain) .retry s hl
  | queryBound s =>
    exact h.toEnduring.withBound (fun id vs => (Session.queryPrepared_runs id vs).plain) .retry s hl
  | transaction t => exact h.toEnduring.runTransaction t hl
  | commit t b => exact h.toEnduring.commit t b hl

theorem Losses.steady (hp : Steady P) {f : Session.Call α} (hf : Session.Plain f) {n : Nat}
    {m : Link} {xs : List Loss} (h : Losses f n l xs m) (hl : P l) : P m := by
  induction h with
  | none => exact hl
  | more submitted _ reconnected _ ih =>
    exact ih (hp.reconnects reconnected (hp.submits hf submitted hl))

/-- A connection is what it was made as through all its calls. -/
theorem steady_setup (s : Setup) : Steady fun l => l.conn.setup = s where
  submits _ h hl := h.setup.trans hl
  reconnects h hl := h.reached.1.trans hl
  givesUp h hl := h.reached.2.1.trans hl
  prepares h hl := h.kept.setup.trans hl
  close hl := hl

/-- What opens and the script keep as well, whole runs keep. -/
theorem Steady.run (h : Steady P) (opens : ∀ l : Link, P l → P l.openSession.2)
    (directs : ∀ (l : Link) d, P l → P { l with server := l.server.follow d }) (steps : List Step)
    (hl : P l) : P (l.run steps) := by
  induction steps generalizing l with
  | nil => exact hl
  | cons s steps ih =>
    apply ih
    cases s with
    | request q => exact h.perform q (fun _ => opens l hl) hl
    | direction d => exact directs l d hl

theorem step_setup (s : Step) : (l.step s).conn.setup = l.conn.setup := by
  cases s with
  | request q => exact (steady_setup _).perform q (fun _ => l.openSession_reached.setup) rfl
  | direction d => rfl

theorem run_setup (steps : List Step) : (l.run steps).conn.setup = l.conn.setup := by
  induction steps generalizing l with
  | nil => rfl
  | cons s steps ih => exact ih.trans (l.step_setup s)

end QueryPool.Link
