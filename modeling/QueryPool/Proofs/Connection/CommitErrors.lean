import QueryPool.Proofs.Connection.Submissions
import QueryPool.Proofs.Connection.Table
import QueryPool.Proofs.Connection.Tries
import QueryPool.Proofs.Connection.Visibility

namespace QueryPool.Link

variable {α : Type} {f : Session.Call α} {t : Transaction} {els : List Element} {l m m' : Link}
  {kinds : List ErrorClass} {err : PoolError}

/-- An error of calls that elements make on a connection, as long as the server reports errors of
these kinds alone. -/
inductive Fault (els : List Element) (l : Link) (kinds : List ErrorClass) : PoolError → Prop where
  | unbound {s : Statement} {p : BindingProblem} (mem : .bound s ∈ els)
      (refused : s.values = .error (.binding p)) : Fault els l kinds (.binding p)
  | unprepared {s : Statement} {vs : List Value} (mem : .bound s ∈ els) (full : s.values = .ok vs)
      (unknown : l.conn.isPrepared s.id = false) : Fault els l kinds (.unprepared s.id)
  | database {e : NativeError} (kind : e.kind ∈ kinds) : Fault els l kinds (.database e)
  | fatal (r : FatalReason) : Fault els l kinds (.fatal r)

theorem Fault.mono {els' : List Element} (h : Fault els l kinds err) (more : ∀ el ∈ els, el ∈ els') :
    Fault els' l kinds err := by
  cases h with
  | unbound mem refused => exact .unbound (more _ mem) refused
  | unprepared mem full unknown => exact .unprepared (more _ mem) full unknown
  | database kind => exact .database kind
  | fatal r => exact .fatal r

theorem Fault.narrow {kinds' : List ErrorClass} (h : Fault els l kinds err)
    (kept : ∀ e, err = .database e → e.kind ∈ kinds → e.kind ∈ kinds') : Fault els l kinds' err := by
  cases h with
  | unbound mem refused => exact .unbound mem refused
  | unprepared mem full unknown => exact .unprepared mem full unknown
  | database kind => exact .database (kept _ rfl kind)
  | fatal r => exact .fatal r

theorem Decides.fault {n left : Nat} (h : Decides f n left m (.error err, m')) :
    Fault els l [.deadlock, .data, .other] err := by
  cases h with
  | reported _ kind => exact .database (by simpa using kind)
  | mismatched | exhausted | looped => exact .fatal _

theorem call_retry_fault (h : m.call .retry f = (.error err, m')) :
    Fault els l [.deadlock, .data, .other] err := by
  obtain ⟨_, _, _, _, decides, _⟩ := (call_iff_course f m _).1 h
  exact decides.fault

theorem call_report_fault (h : m.call .report f = (.error err, m')) :
    Fault els l [.connectionLost, .deadlock, .data, .other] err := by
  cases reports_of_call h with
  | decided decides => exact decides.fault.narrow fun _ _ => List.mem_cons_of_mem _
  | replaced _ lost _ => exact .database (by simp [lost])

theorem runElement_fault {el : Element} (alike : Alike l m) (h : m.runElement el = (.error err, m')) :
    Fault [el] l [.connectionLost, .deadlock, .data, .other] err := by
  cases el with
  | raw sql => exact call_report_fault h
  | bound s =>
    simp only [runElement, executeBoundWith] at h
    rcases m.withBound_cases .report s Session.executePrepared with
      ⟨p, hv, hb⟩ | ⟨vs, hv, hp, hb⟩ | ⟨vs, _, _, hb⟩
    · cases hb.symm.trans h
      exact .unbound List.mem_cons_self hv
    · cases hb.symm.trans h
      exact .unprepared List.mem_cons_self hv ((alike.table s.id).symm.trans hp)
    · exact call_report_fault (hb.symm.trans h)

theorem runElements_fault (alike : Alike l m) (h : m.runElements els = (.error err, m')) :
    Fault els l [.connectionLost, .deadlock, .data, .other] err := by
  induction els generalizing m with
  | nil => cases h
  | cons el els ih =>
    unfold runElements at h
    have first := (enduring_alike l).runElement el alike
    split at h
    · rename_i n k hk
      rw [hk] at first
      exact (ih first h).mono fun _ => List.mem_cons_of_mem el
    · rename_i err' k hk
      cases h
      exact (runElement_fault alike hk).mono (by simp)

theorem commitOpen_fault (h : m.commitOpen = (.error err, m')) :
    Fault els l [.connectionLost, .deadlock, .data, .other] err := by
  unfold commitOpen at h
  split at h
  · cases h
  · rename_i hc
    cases h
    exact call_report_fault hc

theorem runTransaction_fault (alike : Alike l m) (h : m.runTransaction t = (.error err, m')) :
    Fault t.elements l [.connectionLost, .deadlock, .data, .other] err := by
  cases ends_of_runTransaction h with
  | unbegun begun => exact (call_retry_fault begun).narrow fun _ _ => List.mem_cons_of_mem _
  | failed begun ran =>
    have alike := (enduring_alike l).call Session.begin_plain .retry alike
    rw [begun] at alike
    exact runElements_fault alike ran
  | passed _ _ committed => exact commitOpen_fault committed

theorem settle_error {r : Outcome Unit} (h : settle r = (.error err, m)) :
    (∃ reason, err = .fatal reason) ∨
      (r = (.error err, m) ∧ ∀ e, err = .database e → e.kind ≠ .connectionLost) := by
  unfold settle at h
  split at h
  · split at h
    · cases h
      exact .inl ⟨_, rfl⟩
    · rename_i kept
      cases h
      exact .inr ⟨rfl, fun _ he => PoolError.database.inj he ▸ kept⟩
  · rename_i other
    exact .inr ⟨h, by rintro e rfl; exact (other e m h).elim⟩

/-- A try keeps its losses to itself. -/
theorem attempt_fault (alike : Alike l m) (h : m.attempt t = (.error err, m')) :
    Fault t.elements l [.deadlock, .data, .other] err := by
  obtain ⟨k, last, ends⟩ := restarting_eq t m.conn.policy.attempts m
  have alike : Alike l k := (enduring_alike l).starts alike (List.mem_of_getLast? last)
  rcases settle_error (ends.symm.trans h) with ⟨reason, rfl⟩ | ⟨hr, kept⟩
  · exact .fatal reason
  · exact (runTransaction_fault alike hr).narrow fun e he kind =>
      (List.mem_cons.1 kind).resolve_left (kept e he)

/-- The try that decides loses no race. -/
theorem attempt_decisive (alike : Alike l m) (decisive : Decisive t m)
    (h : m.attempt t = (.error err, m')) : Fault t.elements l [.data, .other] err := by
  have kept := decisive err (by rw [h])
  refine (attempt_fault alike h).narrow ?_
  rintro e rfl kind
  exact (List.mem_cons.1 kind).resolve_left (by simpa [PoolError.isDeadlock] using kept)

theorem Deadlocks.enduring {P : Link → Prop} {n : Nat} (h : Deadlocks t n l m) (hp : Enduring P)
    (hl : P l) : P m := by
  induction h with
  | none => exact hl
  | @more l _ _ _ _ tried _ _ ih =>
    have once := hp.restarting t l.conn.policy.attempts hl
    rw [← attempt, tried] at once
    exact ih once

/-- The errors of a commit. Its own elements are at fault, the server reports an error that no
repetition mends, or the end is fatal; it gives up on lost races if and only if every try within its
budget lost one. A try makes one run and at most one more for each try of the policy, and submits an
element at most as often; if it loses an element in every run it makes all of them and then ends
fatally. -/
theorem commit_errors (t : Transaction) (b : Budget) (l : Link) :
    (∀ err m, (l.commit t b).1 = (.error err, m) →
      err = .deadlocked b.limit ∨ Fault t.elements l [.data, .other] err) ∧
    (∀ d m, (l.commit t b).1 = (.error (.deadlocked d), m) ↔
      d = b.limit ∧ Deadlocks t (b.retries + 1) l m) ∧
    ∀ k : Link,
      let n := k.conn.policy.attempts
      let runs := k.starts t n
      (∃ r, runs.getLast? = some r ∧ k.attempt t = settle (r.runTransaction t)) ∧
      runs.length ≤ n + 1 ∧
      (∀ r ∈ runs, (r.trackRun t).2 = r.runTransaction t) ∧
      (∀ i, (runs.flatMap fun r => (r.trackRun t).1).count i ≤ n + 1) ∧
      ∀ i, (∀ r ∈ runs, ∃ e, r.Drops t i e) →
        runs.length = n + 1 ∧ ∃ e, (k.attempt t).1 = .error (.fatal (.retryLoop n e)) := by
  rw [commit_eq]
  have cases := retryDeadlocks_cases t b.limit (b.retries + 1) l
  have tried {n : Nat} {k m : Link} {err : PoolError} (losses : Deadlocks t n l k)
      (decisive : Decisive t k) (h : k.attempt t = (.error err, m)) :
      Fault t.elements l [.data, .other] err :=
    attempt_decisive (losses.enduring (enduring_alike l) (.refl l)) decisive h
  refine ⟨?_, ?_, ?_⟩
  · intro err m h
    rcases cases with ⟨k, _, hr⟩ | ⟨n, k, _, losses, decisive, hr⟩
    · cases hr.symm.trans h
      exact .inl rfl
    · exact .inr (tried losses decisive (hr.symm.trans h))
  · intro d m
    constructor
    · intro h
      rcases cases with ⟨k, losses, hr⟩ | ⟨n, k, _, losses, decisive, hr⟩
      · cases hr.symm.trans h
        exact ⟨rfl, losses⟩
      · cases tried losses decisive (hr.symm.trans h)
    · rintro ⟨rfl, losses⟩
      exact losses.spent
  · intro k n runs
    refine ⟨restarting_eq t n k, starts_length t n k, fun r _ => trackRun_run t r,
      starts_count t n k, ?_⟩
    intro i drops
    obtain ⟨all, _, e, _, _, ends⟩ := restarting_drops (Nat.le_refl n) drops
    exact ⟨all, e, ends⟩

/-- A connection with one try at a lost session, on a server that loses every session the second of
two updates runs on. -/
def leaking : Link := { rough with server := { rules := [⟨"guid = 2", 2013, none⟩] } }

theorem commit_errors_leaking :
    let runs := leaking.starts twoUpdates 1
    (∀ r ∈ runs, ∃ e, r.Drops twoUpdates 1 e) ∧ runs.length = 2 ∧
      runs.flatMap (fun r => (r.trackRun twoUpdates).1) = [0, 1, 0, 1] ∧
      ∃ e, (leaking.attempt twoUpdates).1 = .error (.fatal (.retryLoop 1 e)) := by
  intro runs
  let loss : NativeError := ⟨2013, "injected failure for 'UPDATE money WHERE guid = 2'"⟩
  let begun (r : Link) := r.call .retry Session.begin
  let passed (r : Link) := (begun r).2.runElements (twoUpdates.elements.take 1)
  let dropped (r : Link) := (passed r).2.submit (Session.execute "UPDATE money WHERE guid = 2")
  have drops (r : Link) (hb : (begun r).1 = .ok ()) (hp : (passed r).1 = .ok ())
      (lost : (dropped r).1 = .error loss) (hr : ((dropped r).2.reconnect loss).1 = .ok ()) :
      r.Drops twoUpdates 1 loss :=
    ⟨by decide, (begun r).2, (passed r).2, (dropped r).2, _, _, Prod.ext hb rfl, Prod.ext hp rfl, rfl,
      rfl, Prod.ext lost rfl, fun _ => hr⟩
  let again := (leaking.runTransaction twoUpdates).2
  have handed : leaking.runTransaction twoUpdates = (.error (.database loss), again) :=
    Prod.ext (by rfl) rfl
  have listed : runs = [leaking, again] := by
    simp only [runs]
    rw [starts]
    simp only [handed, starts_zero]
    rfl
  have lossy : ∀ r ∈ runs, ∃ e, r.Drops twoUpdates 1 e := by
    rw [listed]
    intro r hr
    simp only [List.mem_cons, List.not_mem_nil, or_false] at hr
    rcases hr with rfl | rfl
    · exact ⟨loss, drops leaking (by rfl) (by rfl) (by rfl) (by rfl)⟩
    · exact ⟨loss, drops again (by rfl) (by rfl) (by rfl) (by rfl)⟩
  obtain ⟨all, last⟩ := ((commit_errors twoUpdates (.of .zero 0) leaking).2.2 leaking).2.2.2.2 1 lossy
  exact ⟨lossy, all, by decide +kernel, last⟩

end QueryPool.Link
