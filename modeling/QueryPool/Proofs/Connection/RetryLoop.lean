import QueryPool.Proofs.Connection.CommitErrors

namespace QueryPool.Link

variable {α : Type} {f : Session.Call α} {t : Transaction} {el : Element} {els : List Element}
  {l k m : Link} {err : PoolError} {e : NativeError} {left r : Nat}

theorem call_retry_looped (h : l.call .retry f = (.error (.fatal (.retryLoop r e)), m)) :
    r = l.conn.policy.attempts ∧ m.conn.reconnects = l.conn.reconnects + r := by
  obtain ⟨xs, k, few, _, decides, made⟩ := (call_iff_course f l _).1 h
  cases decides with
  | looped submitted lost none =>
    have spent : xs.length = l.conn.policy.attempts := by omega
    rw [spent] at made
    exact ⟨rfl, made⟩

theorem begin_passed (h : l.call .retry Session.begin = (.ok (), k)) :
    k.conn.policy = l.conn.policy ∧ l.conn.reconnects ≤ k.conn.reconnects ∧
      k.conn.reconnects ≤ l.conn.reconnects + l.conn.policy.attempts := by
  have same : k.conn.setup = l.conn.setup := by
    have kept := (steady_setup l.conn.setup).toEnduring.call (l := l) Session.begin_plain .retry rfl
    rwa [h] at kept
  obtain ⟨xs, _, few, _, _, made⟩ := (call_iff_course Session.begin l _).1 h
  simp only at made
  exact ⟨policy_eq same, by omega, by omega⟩

/-- What an error within a transaction tells of the reconnects since `l`. -/
structure Tells (l : Link) (err : PoolError) (m : Link) : Prop where
  /-- only a policy without a try gives up at once -/
  looped : ∀ r e, err = .fatal (.retryLoop r e) →
    r = 0 ∧ l.conn.policy.attempts = 0 ∧ m.conn.reconnects = l.conn.reconnects
  /-- a loss is handed on after one reconnect -/
  lost : ∀ e, err = .database e → e.kind = .connectionLost →
    0 < l.conn.policy.attempts ∧ m.conn.reconnects = l.conn.reconnects + 1

theorem Tells.of_refused (h : err.native? = none) : Tells l err m := by
  constructor
  · rintro r e rfl
    cases h
  · rintro e rfl
    cases h

/-- Calls that went well before it change nothing about it. -/
theorem Tells.after (h : Tells k err m) (same : k.conn.policy = l.conn.policy)
    (none : k.conn.reconnects = l.conn.reconnects) : Tells l err m := by
  obtain ⟨looped, lost⟩ := h
  rw [same, none] at looped lost
  exact ⟨looped, lost⟩

theorem rollbackAfter_reconnects (err : PoolError) (l : Link) :
    (l.rollbackAfter err).conn.reconnects = l.conn.reconnects := by
  unfold rollbackAfter
  split
  · rfl
  · exact (l.submit_submits Session.rollback).reconnects

theorem Tells.rolledBack (h : Tells l err m) : Tells l err (m.rollbackAfter err) := by
  obtain ⟨looped, lost⟩ := h
  rw [← m.rollbackAfter_reconnects err] at looped lost
  exact ⟨looped, lost⟩

theorem call_report_tells (h : l.call .report f = (.error err, m)) : Tells l err m := by
  cases reports_of_call h with
  | decided decides =>
    cases decides with
    | reported submitted kind =>
      refine ⟨by simp, ?_⟩
      intro e he lost
      cases he
      simp [lost] at kind
    | mismatched | exhausted => exact ⟨by simp, by simp⟩
    | looped submitted lost none =>
      refine ⟨?_, by simp⟩
      intro r e he
      cases he
      exact ⟨none, none, submitted.reconnects⟩
  | replaced submitted lost reconnected =>
    refine ⟨by simp, ?_⟩
    intro e he _
    have few := reconnected.choose_spec.choose_spec.2.1
    rw [policy_eq submitted.setup] at few
    rw [reconnected.reached.2.1, submitted.reconnects]
    exact ⟨by omega, rfl⟩

/-- An element is one call, or it is refused before it is submitted. -/
theorem runElement_cases (el : Element) (l : Link) :
    (∃ f : Session.Call Nat, l.runElement el = l.call .report f) ∨
      ∃ err, err.native? = none ∧ l.runElement el = (.error err, l) := by
  cases el with
  | raw sql => exact .inl ⟨_, rfl⟩
  | bound s =>
    rcases l.withBound_cases .report s Session.executePrepared with
      ⟨p, _, hb⟩ | ⟨vs, _, _, hb⟩ | ⟨vs, _, _, hb⟩
    · exact .inr ⟨_, rfl, hb⟩
    · exact .inr ⟨_, rfl, hb⟩
    · exact .inl ⟨_, hb⟩

theorem runElement_ok {n : Nat} (h : l.runElement el = (.ok n, m)) :
    m.conn.policy = l.conn.policy ∧ m.conn.reconnects = l.conn.reconnects := by
  rcases runElement_cases el l with ⟨f, hf⟩ | ⟨err, _, refused⟩
  · have submitted := call_report_ok (hf.symm.trans h)
    exact ⟨policy_eq submitted.setup, submitted.reconnects⟩
  · cases refused.symm.trans h

theorem runElement_tells (h : l.runElement el = (.error err, m)) : Tells l err m := by
  rcases runElement_cases el l with ⟨f, hf⟩ | ⟨err', unasked, refused⟩
  · exact call_report_tells (hf.symm.trans h)
  · cases refused.symm.trans h
    exact .of_refused unasked

theorem runElements_ok (h : l.runElements els = (.ok (), m)) :
    m.conn.policy = l.conn.policy ∧ m.conn.reconnects = l.conn.reconnects := by
  induction els generalizing l with
  | nil =>
    cases h
    exact ⟨rfl, rfl⟩
  | cons el els ih =>
    unfold runElements at h
    split at h
    · rename_i n k hk
      obtain ⟨same, none⟩ := runElement_ok hk
      obtain ⟨same', none'⟩ := ih h
      exact ⟨same'.trans same, none'.trans none⟩
    · cases h

theorem runElements_tells (h : l.runElements els = (.error err, m)) : Tells l err m := by
  induction els generalizing l with
  | nil => cases h
  | cons el els ih =>
    unfold runElements at h
    split at h
    · rename_i n k hk
      obtain ⟨same, none⟩ := runElement_ok hk
      exact (ih h).after same none
    · rename_i err' k hk
      cases h
      exact runElement_tells hk

theorem commitOpen_tells (h : l.commitOpen = (.error err, m)) : Tells l err m := by
  unfold commitOpen at h
  split at h
  · cases h
  · rename_i hc
    cases h
    exact (call_report_tells hc).rolledBack

/-- A run fails with its begin, or within the transaction that it began. -/
theorem runTransaction_tells (h : l.runTransaction t = (.error err, m)) :
    l.call .retry Session.begin = (.error err, m) ∨
      ∃ k, l.call .retry Session.begin = (.ok (), k) ∧ Tells k err m := by
  cases ends_of_runTransaction h with
  | unbegun begun => exact .inl begun
  | failed begun ran => exact .inr ⟨_, begun, (runElements_tells ran).rolledBack⟩
  | passed begun ran committed =>
    obtain ⟨same, none⟩ := runElements_ok ran
    exact .inr ⟨_, begun, (commitOpen_tells committed).after same none⟩

/-- A run that gives up of itself made as many reconnects as it names. -/
theorem runTransaction_looped (h : l.runTransaction t = (.error (.fatal (.retryLoop r e)), m)) :
    r = l.conn.policy.attempts ∧ m.conn.reconnects = l.conn.reconnects + r := by
  cases runTransaction_tells h with
  | inl begun => exact call_retry_looped begun
  | inr within =>
    obtain ⟨k, begun, tells⟩ := within
    obtain ⟨same, more, few⟩ := begin_passed begun
    obtain ⟨rfl, none, made⟩ := tells.looped r e rfl
    rw [same] at none
    exact ⟨by omega, by omega⟩

/-- A run that hands a loss on has reconnected for it, and its begin may have done so before. -/
theorem runTransaction_lost (h : l.runTransaction t = (.error (.database e), m))
    (lost : e.kind = .connectionLost) :
    0 < l.conn.policy.attempts ∧ l.conn.reconnects + 1 ≤ m.conn.reconnects ∧
      m.conn.reconnects ≤ l.conn.reconnects + l.conn.policy.attempts + 1 := by
  cases runTransaction_tells h with
  | inl begun =>
    have fault : Fault [] l [.deadlock, .data, .other] (.database e) := call_retry_fault begun
    cases fault with
    | database kind => simp [lost] at kind
  | inr within =>
    obtain ⟨k, begun, tells⟩ := within
    obtain ⟨same, more, few⟩ := begin_passed begun
    obtain ⟨some, made⟩ := tells.lost e rfl lost
    rw [same] at some
    exact ⟨some, by omega, by omega⟩

theorem runTransaction_policy (h : l.runTransaction t = (.error err, m)) :
    m.conn.policy = l.conn.policy := by
  have kept := (steady_setup l.conn.setup).toEnduring.runTransaction (l := l) t rfl
  rw [h] at kept
  exact policy_eq kept

theorem starts_pos (t : Transaction) (left : Nat) (l : Link) : 0 < (l.starts t left).length := by
  unfold starts
  exact Nat.succ_pos _

/-- Either the last run gave up of itself, on top of a reconnect for each run before it, or every
run that there could be handed a loss on. -/
theorem restarting_looped (h : l.restarting t left = (.error (.fatal (.retryLoop r e)), m)) :
    let n := l.conn.policy.attempts
    let runs := (l.starts t left).length
    r = n ∧ m.conn.reconnects ≤ l.conn.reconnects + runs * (n + 1) ∧
      (l.conn.reconnects + n + runs ≤ m.conn.reconnects + 1 ∧
          (runs = 1 → m.conn.reconnects = l.conn.reconnects + n) ∨
        0 < n ∧ runs = left + 1 ∧ l.conn.reconnects + runs ≤ m.conn.reconnects) := by
  fun_induction restarting t left l with
  | case1 l e' k hk lost =>
    obtain ⟨some, more, few⟩ := runTransaction_lost hk lost
    cases h
    rw [starts_zero, List.length_singleton, runTransaction_policy hk]
    exact ⟨rfl, by omega, .inr ⟨some, rfl, more⟩⟩
  | case2 l e' k hk lost left ih =>
    obtain ⟨some, more, few⟩ := runTransaction_lost hk lost
    have again : l.starts t (left + 1) = l :: k.starts t left := by
      rw [starts]
      simp only [hk, lost, if_true]
    have ran := k.starts_pos t left
    obtain ⟨rfl, most, least⟩ := ih h
    rw [runTransaction_policy hk] at most least
    rw [again, List.length_cons]
    generalize (k.starts t left).length = runs at most least ran ⊢
    refine ⟨by rw [runTransaction_policy hk], ?_, ?_⟩
    · rw [Nat.succ_mul]
      omega
    · cases least with
      | inl stuck => exact .inl ⟨by omega, by omega⟩
      | inr spent => exact .inr ⟨some, by omega, by omega⟩
  | case3 left l e' k hk kept => cases h
  | case4 left l other =>
    obtain ⟨rfl, made⟩ := runTransaction_looped h
    have once : l.starts t left = [l] := by
      rw [starts]
      simp only [h]
    rw [once, List.length_singleton]
    exact ⟨rfl, by omega, .inl ⟨by omega, fun _ => made⟩⟩

/-- What a try at a transaction spends that gives up on a session and names `r` reconnects. -/
structure Spends (t : Transaction) (r : Nat) (l m : Link) : Prop where
  least : l.conn.reconnects + r ≤ m.conn.reconnects
  most : m.conn.reconnects ≤ l.conn.reconnects + (r + 1) * (r + 1)
  /-- the count is right if and only if there was one run -/
  exactly : m.conn.reconnects = l.conn.reconnects + r ↔ (l.starts t r).length = 1

theorem attempt_looped (h : l.attempt t = (.error (.fatal (.retryLoop r e)), m)) :
    r = l.conn.policy.attempts ∧ Spends t r l m := by
  obtain ⟨rfl, most, least⟩ := restarting_looped h
  have some := l.starts_pos t l.conn.policy.attempts
  have few := l.starts_length t l.conn.policy.attempts
  have bound := Nat.mul_le_mul_right (l.conn.policy.attempts + 1) few
  generalize hr : (l.starts t l.conn.policy.attempts).length = runs at most least some few bound
  refine ⟨rfl, ?_, by omega, ?_⟩
  · cases least with
    | inl stuck => omega
    | inr spent => omega
  · rw [hr]
    cases least with
    | inl stuck => exact ⟨fun _ => by omega, stuck.2⟩
    | inr spent => exact ⟨fun _ => by omega, fun _ => by omega⟩

theorem enduring_reconnects (n : Nat) : Enduring fun l => n ≤ l.conn.reconnects where
  submits _ h hl := by
    rw [h.reconnects]
    exact hl
  reconnects h hl := by
    rw [h.reached.2.1]
    exact Nat.le_succ_of_le hl
  givesUp h hl := by
    rw [h.reached.2.2.1]
    exact hl

/-- A plain call that gives up on a session names the reconnects that it made. A commit names the
tries of the policy: its last try, before which the others lost a race, made as many reconnects only
if it was one run, and more if the transaction was started over. -/
theorem retryLoop_counts (l : Link) :
    (∀ {α : Type} (f : Session.Call α) r e m,
      l.call .retry f = (.error (.fatal (.retryLoop r e)), m) →
        r = l.conn.policy.attempts ∧ m.conn.reconnects = l.conn.reconnects + r) ∧
    ∀ t b r e m, (l.commit t b).1 = (.error (.fatal (.retryLoop r e)), m) →
      r = l.conn.policy.attempts ∧ ∃ n k, Deadlocks t n l k ∧ (Decisive t l → k = l) ∧
        l.conn.reconnects ≤ k.conn.reconnects ∧ Spends t r k m := by
  refine ⟨fun f r e m => call_retry_looped, ?_⟩
  intro t b r e m h
  rw [commit_eq] at h
  rcases retryDeadlocks_cases t b.limit (b.retries + 1) l with
    ⟨k, _, hr⟩ | ⟨n, k, _, losses, _, hr⟩
  · cases hr.symm.trans h
  · obtain ⟨rfl, spends⟩ := attempt_looped (hr.symm.trans h)
    have same := losses.enduring (steady_setup l.conn.setup).toEnduring rfl
    have more := losses.enduring (enduring_reconnects l.conn.reconnects) (Nat.le_refl _)
    refine ⟨by rw [policy_eq same], n, k, losses, ?_, more, spends⟩
    intro decisive
    cases losses with
    | none => rfl
    | more tried lost _ =>
      rw [decisive _ (by rw [tried])] at lost
      cases lost

/-- With one try, the statement reconnects once. The transaction is started over once, and each of
its two runs reconnects. -/
theorem retryLoop_counts_leaking :
    let c := losing.call .retry (Session.executePrepared 1 [.int 7])
    let l := leaking.openSession.2
    let r := (l.commit twoUpdates (.of .zero 0)).1
    ((∃ e, c.1 = .error (.fatal (.retryLoop 1 e))) ∧
      c.2.conn.reconnects = losing.conn.reconnects + 1) ∧
    l.conn.isOpen = true ∧ Decisive twoUpdates l ∧ (∃ e, r.1 = .error (.fatal (.retryLoop 1 e))) ∧
      r.2.conn.reconnects = l.conn.reconnects + 2 ∧ Spends twoUpdates 1 l r.2 := by
  intro c l r
  constructor
  · let loss : NativeError := ⟨2013, "injected failure for 'SELECT ? [Int(7)]'"⟩
    have ends : c = (.error (.fatal (.retryLoop 1 loss)), c.2) := Prod.ext (by rfl) rfl
    exact ⟨⟨loss, by rw [ends]⟩, ((retryLoop_counts losing).1 _ _ _ _ ends).2⟩
  · let loss : NativeError := ⟨2013, "injected failure for 'UPDATE money WHERE guid = 2'"⟩
    let again := (l.runTransaction twoUpdates).2
    let after := (again.runTransaction twoUpdates).2
    have lost : loss.kind = .connectionLost := by decide
    have first : l.runTransaction twoUpdates = (.error (.database loss), again) :=
      Prod.ext (by rfl) rfl
    have second : again.runTransaction twoUpdates = (.error (.database loss), after) :=
      Prod.ext (by rfl) rfl
    have tries : after.conn.policy.attempts = 1 := by decide +kernel
    have tried : l.attempt twoUpdates = (.error (.fatal (.retryLoop 1 loss)), after) := by
      change l.restarting twoUpdates 1 = _
      simp only [restarting, first, second, lost, if_true, tries]
    have decisive : Decisive twoUpdates l := by
      intro e he
      rw [tried] at he
      cases he
      rfl
    have ends : r = (.error (.fatal (.retryLoop 1 loss)), after) := by
      simp only [r, commit, tried, PoolError.isDeadlock, Bool.false_eq_true, if_false]
    obtain ⟨_, n, k, _, same, _, spends⟩ := (retryLoop_counts l).2 _ _ _ _ _ ends
    cases same decisive
    rw [ends]
    exact ⟨by decide +kernel, decisive, ⟨loss, rfl⟩, by decide +kernel, spends⟩

end QueryPool.Link
