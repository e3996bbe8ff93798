import QueryPool.Proofs.Connection.Report
import QueryPool.Proofs.Connection.Steady

namespace QueryPool.Link

variable {t : Transaction} {l m : Link} {e : NativeError} {i n left : Nat}

/-- The call that an element submits, or why it submits none. -/
def callOf (l : Link) : Element → Except PoolError (Session.Call Nat)
  | .raw sql => .ok (Session.execute sql)
  | .bound s =>
    match s.values with
    | .error err => .error err
    | .ok vs =>
      if l.conn.isPrepared s.id then .ok (Session.executePrepared s.id vs)
      else .error (.unprepared s.id)

/-- An element is refused, or submitted once. -/
theorem runElement_eq (el : Element) (l : Link) :
    l.runElement el = match l.callOf el with
      | .error err => (.error err, l)
      | .ok f => (l.submit f).2.report (l.submit f).1 := by
  cases el with
  | raw sql => exact call_report _ l
  | bound s =>
    simp only [runElement, executeBoundWith, withBound, callOf]
    cases s.values with
    | error err => rfl
    | ok vs =>
      cases hp : l.conn.isPrepared s.id with
      | false => rfl
      | true => exact call_report _ l

/-- A run of elements that stand in a transaction from `place` on, with a note of each submission. -/
def track : List Element → Nat → Link → List Nat × Outcome Unit
  | [], _, l => ([], (.ok (), l))
  | el :: els, place, l =>
    match l.callOf el with
    | .error err => ([], (.error err, l))
    | .ok f =>
      match (l.submit f).2.report (l.submit f).1 with
      | (.error err, m) => ([place], (.error err, m))
      | (.ok _, m) =>
        let (places, r) := track els (place + 1) m
        (place :: places, r)

/-- A run of a transaction, with a note of the place of each element that it submits. -/
def trackRun (t : Transaction) (l : Link) : List Nat × Outcome Unit :=
  if t.elements.isEmpty then ([], (.ok (), l))
  else match l.call .retry Session.begin with
    | (.error err, l) => ([], (.error err, l))
    | (.ok (), l) =>
      match l.track t.elements 0 with
      | (places, (.error err, l)) => (places, (.error err, l.rollbackAfter err))
      | (places, (.ok (), l)) => (places, l.commitOpen)

/-- Where the runs begin that `restarting` makes. -/
def starts (t : Transaction) : Nat → Link → List Link
  | left, l =>
    l :: match l.runTransaction t with
      | (.error (.database e), m) =>
        if e.kind = .connectionLost then
          match left with
          | 0 => []
          | left + 1 => starts t left m
        else []
      | _ => []

/-- What a try makes of its last run: no loss is handed on. -/
def settle : Outcome Unit → Outcome Unit
  | (.error (.database e), l) =>
    if e.kind = .connectionLost then (.error (.fatal (.retryLoop l.conn.policy.attempts e)), l)
    else (.error (.database e), l)
  | other => other

theorem track_run (els : List Element) (place : Nat) (l : Link) :
    (l.track els place).2 = l.runElements els := by
  induction els generalizing place l with
  | nil => rfl
  | cons el els ih =>
    simp only [track, runElements, runElement_eq]
    cases l.callOf el with
    | error err => rfl
    | ok f =>
      simp only
      rcases (l.submit f).2.report (l.submit f).1 with ⟨err | n, m⟩
      · rfl
      · exact ih (place + 1) m

/-- The notes change nothing. -/
theorem trackRun_run (t : Transaction) (l : Link) : (l.trackRun t).2 = l.runTransaction t := by
  unfold trackRun runTransaction
  split
  · rfl
  · rcases l.call .retry Session.begin with ⟨err | u, k⟩
    · rfl
    · have same := k.track_run t.elements 0
      rcases hk : k.track t.elements 0 with ⟨places, err | u, m⟩ <;>
        · rw [hk] at same
          simp only [← same, hk]

theorem track_places (els : List Element) (place : Nat) (l : Link) :
    (l.track els place).1 <+: List.range' place els.length := by
  induction els generalizing place l with
  | nil => exact List.prefix_rfl
  | cons el els ih =>
    rw [List.length_cons, List.range'_succ]
    unfold track
    split
    · exact List.nil_prefix
    · split
      · exact (List.prefix_cons_inj place).2 List.nil_prefix
      · exact (List.prefix_cons_inj place).2 (ih (place + 1) _)

/-- No run submits an element twice. -/
theorem trackRun_count (t : Transaction) (l : Link) (i : Nat) : (l.trackRun t).1.count i ≤ 1 := by
  apply List.nodup_iff_count.1
  unfold trackRun
  split
  · exact List.nodup_nil
  · rcases l.call .retry Session.begin with ⟨err | u, k⟩
    · exact List.nodup_nil
    · have distinct := (k.track_places t.elements 0).sublist.nodup (List.nodup_range' ..)
      rcases hk : k.track t.elements 0 with ⟨places, err | u, m⟩ <;>
        · rw [hk] at distinct
          simpa only [hk] using distinct

theorem starts_zero (t : Transaction) (l : Link) : l.starts t 0 = [l] := by
  unfold starts
  split
  · split <;> rfl
  · rfl

theorem starts_length (t : Transaction) (left : Nat) (l : Link) :
    (l.starts t left).length ≤ left + 1 := by
  induction left generalizing l with
  | zero =>
    rw [starts_zero]
    exact Nat.le_refl 1
  | succ left ih =>
    unfold starts
    grind

theorem starts_count (t : Transaction) (left : Nat) (l : Link) (i : Nat) :
    ((l.starts t left).flatMap fun k => (k.trackRun t).1).count i ≤ left + 1 := by
  refine Nat.le_trans ?_ (l.starts_length t left)
  induction l.starts t left with
  | nil => simp
  | cons k ks ih =>
    rw [List.flatMap_cons, List.count_append, List.length_cons]
    have one := k.trackRun_count t i
    omega

theorem Enduring.starts {P : Link → Prop} (h : Enduring P) (hl : P l) {k : Link}
    (hk : k ∈ l.starts t left) : P k := by
  have after := h.runTransaction t hl
  induction left generalizing l with
  | zero =>
    rw [starts_zero] at hk
    rw [List.mem_singleton.1 hk]
    exact hl
  | succ left ih =>
    unfold Link.starts at hk
    rcases List.mem_cons.1 hk with rfl | hk
    · exact hl
    · split at hk
      · rename_i e m hm
        rw [hm] at after
        split at hk
        · exact ih after hk (h.runTransaction t after)
        · cases hk
      · cases hk

/-- A try ends as the last of its runs did. -/
theorem restarting_eq (t : Transaction) (left : Nat) (l : Link) :
    ∃ k, (l.starts t left).getLast? = some k ∧ l.restarting t left = settle (k.runTransaction t) := by
  fun_induction restarting t left l with
  | case1 l e m h hk => exact ⟨l, by simp [starts, h, hk], by simp only [h, settle, hk, if_true]⟩
  | case2 l e m h hk left ih =>
    obtain ⟨k, hlast, hout⟩ := ih
    refine ⟨k, ?_, hout⟩
    unfold starts
    simp only [h, hk, if_true, List.getLast?_cons, hlast, Option.getD_some]
  | case3 left l e m h hk => exact ⟨l, by simp [starts, h, hk], by simp only [h, settle, hk, if_false]⟩
  | case4 left l h =>
    refine ⟨l, ?_, ?_⟩
    · unfold starts
      split
      · rename_i e m hr
        exact (h e m hr).elim
      · rfl
    · unfold settle
      split
      · rename_i e m hr
        exact (h e m hr).elim
      · rfl

/-- A run that begins and passes the elements before place `i`, and then loses the session that the
element there is submitted to; if the policy has a try, it gets another session. -/
structure Drops (t : Transaction) (i : Nat) (e : NativeError) (l : Link) : Prop where
  lost : e.kind = .connectionLost
  dropped : ∃ (k k' m : Link) (el : Element) (f : Session.Call Nat),
    l.call .retry Session.begin = (.ok (), k) ∧ k.runElements (t.elements.take i) = (.ok (), k') ∧
    t.elements[i]? = some el ∧ k'.callOf el = .ok f ∧ k'.submit f = (.error e, m) ∧
    (0 < l.conn.policy.attempts → (m.reconnect e).1 = .ok ())

/-- Such a run hands the loss on, or gives up at once under a policy without a try. -/
theorem Drops.run (h : l.Drops t i e) :
    ∃ m, l.runTransaction t = (.error
      (if l.conn.policy.attempts = 0 then .fatal (.retryLoop 0 e) else .database e), m) ∧
      m.conn.policy = l.conn.policy := by
  refine ⟨(l.runTransaction t).2, Prod.ext ?_ rfl,
    policy_eq ((steady_setup l.conn.setup).toEnduring.runTransaction t rfl)⟩
  obtain ⟨lost, k, k', m, el, f, begun, passed, here, called, submitted, renewed⟩ := h
  have enduring := (steady_setup l.conn.setup).toEnduring
  have hk : k.conn.setup = l.conn.setup := by
    have := enduring.call (l := l) Session.begin_plain .retry rfl
    rwa [begun] at this
  have hk' : k'.conn.setup = l.conn.setup := by
    have := enduring.runElements (t.elements.take i) hk
    rwa [passed] at this
  have hm : m.conn.policy = l.conn.policy :=
    policy_eq ((submits_of_submit submitted).setup.trans hk')
  have filled : t.elements.isEmpty = false := by
    cases ht : t.elements with
    | nil => simp [ht] at here
    | cons => rfl
  have split : t.elements = t.elements.take i ++ el :: t.elements.drop (i + 1) := by
    obtain ⟨hi, rfl⟩ := List.getElem?_eq_some_iff.1 here
    rw [List.getElem_cons_drop hi, List.take_append_drop]
  have reported : ∃ m', (m.report (.error e) : Outcome Nat) = (.error
      (if l.conn.policy.attempts = 0 then .fatal (.retryLoop 0 e) else .database e), m') := by
    simp only [report, lost, hm]
    cases hn : l.conn.policy.attempts with
    | zero => exact ⟨m, rfl⟩
    | succ n =>
      have again := renewed (by omega)
      rcases hr : m.reconnect e with ⟨err | u, m'⟩
      · rw [hr] at again
        cases again
      · exact ⟨m', rfl⟩
  obtain ⟨m', reported⟩ := reported
  have ran : k.runElements t.elements = (.error
      (if l.conn.policy.attempts = 0 then .fatal (.retryLoop 0 e) else .database e), m') := by
    rw [split, runElements_append, passed]
    simp only [runElements, runElement_eq, called, submitted, reported]
  simp only [runTransaction, filled, Bool.false_eq_true, if_false, begun, ran]

/-- No try hands a loss on. -/
theorem Drops.settles (h : l.Drops t i e) :
    (settle (l.runTransaction t)).1 = .error (.fatal (.retryLoop l.conn.policy.attempts e)) := by
  obtain ⟨m, hr, same⟩ := h.run
  rw [hr]
  split
  · rename_i none
    simp only [settle, none]
  · simp only [settle, h.lost, if_true, same]

/-- If every run of a try loses the element at one place, the policy's tries are all spent on
starting over, and the try ends fatally with the loss of its last run. -/
theorem restarting_drops (few : left ≤ l.conn.policy.attempts)
    (h : ∀ k ∈ l.starts t left, ∃ e, k.Drops t i e) :
    (l.starts t left).length = left + 1 ∧ ∃ k e, (l.starts t left).getLast? = some k ∧
      k.Drops t i e ∧
      (l.restarting t left).1 = .error (.fatal (.retryLoop l.conn.policy.attempts e)) := by
  induction left generalizing l with
  | zero =>
    rw [starts_zero] at h ⊢
    obtain ⟨e, drops⟩ := h l List.mem_cons_self
    refine ⟨rfl, l, e, rfl, drops, ?_⟩
    obtain ⟨k, hlast, hout⟩ := restarting_eq t 0 l
    obtain rfl : l = k := Option.some.inj (by rwa [starts_zero] at hlast)
    rw [hout, drops.settles]
  | succ left ih =>
    obtain ⟨e, drops⟩ := h l (by unfold starts; exact List.mem_cons_self)
    obtain ⟨m, hr, same⟩ := drops.run
    rw [if_neg (by omega)] at hr
    -- the run handed its loss on, so the next begins where it ended
    have again : l.starts t (left + 1) = l :: m.starts t left := by
      rw [starts]
      simp only [hr, drops.lost, if_true]
    have rest : l.restarting t (left + 1) = m.restarting t left := by
      rw [restarting]
      simp only [hr, drops.lost, if_true]
    rw [again] at h ⊢
    rw [rest, ← same]
    obtain ⟨hlen, k, e', hlast, drops', hout⟩ := ih (by rw [same]; omega)
      fun k hk => h k (List.mem_cons_of_mem _ hk)
    refine ⟨by rw [List.length_cons, hlen], k, e', ?_, drops', hout⟩
    rw [List.getLast?_cons, hlast, Option.getD_some]

end QueryPool.Link
