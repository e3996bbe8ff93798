import QueryPool.Proofs.Connection.Steady

namespace QueryPool

/-- What a session says to a statement that it does not know. -/
def Session.notPrepared (id session : Nat) : NativeError :=
  ⟨Code.unknown, s!"statement {id} not prepared on session {session}"⟩

/-- What a session says to a wrong number of values. -/
def Session.wrongCount (id takes got : Nat) : NativeError :=
  ⟨Code.valueCount, s!"statement {id} takes {takes} values, got {got}"⟩

theorem Session.bound_error {ses : Session} {id : Nat} {vs : List Value} {e : NativeError}
    (h : ses.bound id vs = .error e) :
    (ses.prepared.get? id = none ∧ e = notPrepared id ses.id) ∨
      ∃ p, ses.prepared.get? id = some p ∧ vs.length ≠ countMarks p.2 ∧
        e = wrongCount id (countMarks p.2) vs.length := by
  unfold bound at h
  split at h
  · rename_i hget
    cases h
    exact .inl ⟨hget, rfl⟩
  · rename_i i sql hget
    simp only at h
    split at h
    · cases h
    · rename_i hlen
      cases h
      exact .inr ⟨(i, sql), hget, hlen, rfl⟩

namespace Link

variable {α : Type} {l m l' : Link} {id : Nat} {t : Template}

/-- The session knows statement `id` by the registry's text, and the table has it with the number of
values that the template takes. -/
structure Ready (l : Link) (ses : Session) (id : Nat) (t : Template) : Prop where
  registered : l.conn.registry.get? id = some t
  known : ses.prepared.get? id = some (id, t.sql)
  listed : l.conn.prepared.get? id = some (id, t.slots)
  /-- without a scripted count the marks of the text were counted -/
  marks : l.server.counts.get? id = none → Session.countMarks t.sql = t.slots

/-- If there is a session, it is ready for statement `id`. -/
def ReadyFor (l : Link) (id : Nat) : Prop :=
  ∀ ses, l.conn.session = some ses → ∃ t, Ready l ses id t

/-- Whatever the table lists is ready on the session there is. -/
def Coherent (l : Link) : Prop := ∀ id, l.conn.isPrepared id = true → l.ReadyFor id

theorem readyFor_of_closed (h : l.conn.session = none) (id : Nat) : l.ReadyFor id := by
  intro ses hs
  rw [h] at hs
  cases hs

theorem coherent_of_closed (h : l.conn.session = none) : l.Coherent :=
  fun id _ => readyFor_of_closed h id

/-- A preparation, even one that fails, spoils no other and not its own. -/
theorem prepareOne_readyFor (ht : l.conn.registry.get? t.id = some t) (h : l.ReadyFor id) :
    (l.prepareOne t).2.ReadyFor id := by
  rcases l.prepareOne_cases t with ⟨hs, hp⟩ | ⟨ses, hs, hcases⟩
  · rwa [hp]
  · obtain ⟨u, hu⟩ := h ses hs
    -- under one id the registry has one template
    have same (hid : t.id = id) : t = u := by
      have hu' := hu.registered
      rw [← hid, ht] at hu'
      exact Option.some.inj hu'
    have known : (ses.prepared.insert (t.id, t.sql)).get? id = some (id, u.sql) := by
      rw [Keyed.get?_insert]
      split
      · rename_i hid
        rw [← same hid, ← hid]
      · exact hu.known
    rcases hcases with ⟨e, server, hc, hp⟩ | ⟨n, _, ⟨hn, hp⟩ | ⟨_, hp⟩⟩
    · rw [hp]
      intro ses' hs'
      cases hs.symm.trans hs'
      exact ⟨u, hu.registered, hu.known, hu.listed, fun hcount => hu.marks (by rwa [← hc.counts])⟩
    · rw [hp]
      intro ses' hs'
      cases hs'
      refine ⟨u, hu.registered, known, ?_, hu.marks⟩
      rw [Keyed.get?_insert]
      split
      · rename_i hid
        rw [← same hid, ← hid, hn]
      · exact hu.listed
    · rw [hp]
      intro ses' hs'
      cases hs'
      exact ⟨u, hu.registered, known, hu.listed, hu.marks⟩

/-- The count that let a statement into the table is the template's. -/
theorem readyFor_of_prepareOne (ht : l.conn.registry.get? t.id = some t)
    (h : l.prepareOne t = (.ok (), l')) : l'.ReadyFor t.id := by
  rcases l.prepareOne_cases t with ⟨_, hp⟩ | ⟨ses, hs, ⟨e, server, _, hp⟩ | ⟨n, hn, ⟨hslots, hp⟩ | ⟨_, hp⟩⟩⟩
  · rw [hp] at h
    cases h
  · rw [hp] at h
    cases h
  · rw [hp] at h
    cases h
    intro ses' hs'
    cases hs'
    refine ⟨t, ht, ?_, ?_, fun hcount => ?_⟩
    · rw [Keyed.get?_insert, if_pos rfl]
    · rw [Keyed.get?_insert, if_pos rfl, hslots]
    · have hmarks : n = Session.countMarks t.sql := by
        rw [hn, Session.reportedCount, show l.server.counts.get? t.id = none from hcount]
        rfl
      rw [← hmarks, hslots]
  · rw [hp] at h
    cases h

/-- Only what was prepared well enters the table. -/
theorem listed_of_prepareOne (ht : l.conn.registry.get? t.id = some t)
    (h : (l.prepareOne t).2.conn.isPrepared id = true) :
    l.conn.isPrepared id = true ∨ (l.prepareOne t).2.ReadyFor id := by
  rcases l.prepareOne_cases t with ⟨_, hp⟩ | ⟨ses, _, ⟨e, server, _, hp⟩ | ⟨n, _, ⟨_, hp⟩ | ⟨_, hp⟩⟩⟩
  · rw [hp] at h
    exact .inl h
  · rw [hp] at h
    exact .inl h
  · have hready := readyFor_of_prepareOne ht hp
    rw [hp] at h ⊢
    obtain ⟨p, hget⟩ := Keyed.contains_iff.1 h
    simp only at hget
    rw [Keyed.get?_insert] at hget
    split at hget
    · rename_i hid
      simp only at hid
      subst hid
      exact .inr hready
    · exact .inl (Keyed.contains_iff.2 ⟨p, hget⟩)
  · rw [hp] at h
    exact .inl h

theorem prepareOne_coherent (ht : l.conn.registry.get? t.id = some t) (h : l.Coherent) :
    (l.prepareOne t).2.Coherent := by
  intro id hid
  rcases listed_of_prepareOne ht hid with hl | hready
  · exact prepareOne_readyFor ht (h id hl)
  · exact hready

theorem Prepares.coherent (h : Prepares l l') (hl : l.Coherent) : l'.Coherent :=
  h.induct (fun _ _ ht hm => prepareOne_coherent ht hm) hl

/-- Preparing everything that is listed and not ready yet makes the table coherent. -/
theorem coherent_of_prepareAgain {ids : List Nat} (h : l.prepareAgain ids = (.ok (), l'))
    (hl : ∀ id, l.conn.isPrepared id = true → id ∈ ids ∨ l.ReadyFor id) : l'.Coherent := by
  induction ids generalizing l with
  | nil =>
    cases h
    intro id hid
    rcases hl id hid with hmem | hready
    · cases hmem
    · exact hready
  | cons i ids ih =>
    unfold prepareAgain at h
    split at h
    · cases h
    · rename_i t ht
      have hi : t.id = i := Keyed.key_of_get? ht
      rw [← hi] at ht hl
      split at h
      · rename_i m hm
        have hafter : (l.prepareOne t).2 = m := by rw [hm]
        have hkept : ∀ id, l.ReadyFor id → m.ReadyFor id := by
          intro id hready
          rw [← hafter]
          exact prepareOne_readyFor ht hready
        have hlisted : ∀ id, m.conn.isPrepared id = true →
            l.conn.isPrepared id = true ∨ m.ReadyFor id := by
          rw [← hafter]
          intro id hid
          exact listed_of_prepareOne ht hid
        -- what is listed now was listed before or has just become ready
        apply ih h
        intro id hid
        rcases hlisted id hid with hold | hready
        · rcases hl id hold with hmem | hready
          · rcases List.mem_cons.1 hmem with rfl | hmem
            · exact .inr (readyFor_of_prepareOne ht hm)
            · exact .inl hmem
          · exact .inr (hkept id hready)
        · exact .inr hready
      · rename_i failed
        exact (failed l' h).elim

theorem coherent_of_openSession (h : l.openSession = (.ok (), l')) : l'.Coherent := by
  rcases l.openSession_cases with ⟨e, n, _, ho⟩ | ⟨_, ho⟩
  · rw [ho] at h
    cases h
  · rw [ho] at h
    exact coherent_of_prepareAgain h fun id hid => .inl (Keyed.mem_keys.2 hid)

theorem Submits.coherent {f : Session.Call α} {r : Except NativeError α} (hf : Session.Plain f)
    (h : Submits f l r m) (hl : l.Coherent) : m.Coherent := by
  cases h with
  | closed => exact hl
  | @native ses ses' server r opened ran =>
    intro id hid ses'' hs
    cases hs
    obtain ⟨u, hu⟩ := hl id hid ses opened
    have hk := hf.keeps ses l.server
    rw [ran] at hk
    obtain ⟨_, hprepared, hcounts⟩ := hk
    simp only at hprepared hcounts
    refine ⟨u, hu.registered, ?_, hu.listed, fun hcount => hu.marks ?_⟩
    · rw [hprepared]
      exact hu.known
    · simp only at hcount
      rwa [hcounts] at hcount

/-- Whatever was lost on the way, a reconnect ends with an open that went well. -/
theorem Reconnects.coherent {n : Nat} {errs : List PoolError} (h : Reconnects n l errs l') :
    l'.Coherent := by
  obtain ⟨m, m', _, _, opened, rfl⟩ := h
  exact fun id hid ses hs =>
    let ⟨t, ht⟩ := coherent_of_openSession opened id hid ses hs
    ⟨t, ht.registered, ht.known, ht.listed, ht.marks⟩

theorem steady_coherent : Steady Coherent where
  submits hf h hl := h.coherent hf hl
  reconnects h _ := h.coherent
  givesUp h _ := coherent_of_closed h.reached.1
  prepares h hl := h.coherent hl
  close _ := coherent_of_closed rfl

/-- No call takes a statement out of the table. -/
theorem prepareOne_listed (h : l.conn.isPrepared id = true) :
    (l.prepareOne t).2.conn.isPrepared id = true := by
  rcases l.prepareOne_cases t with ⟨_, hp⟩ | ⟨ses, _, ⟨e, server, _, hp⟩ | ⟨n, _, ⟨_, hp⟩ | ⟨_, hp⟩⟩⟩
  · rwa [hp]
  · rwa [hp]
  · rw [hp]
    obtain ⟨p, hget⟩ := Keyed.contains_iff.1 h
    have hnew := Keyed.get?_insert l.conn.prepared (t.id, n) id
    split at hnew
    · exact Keyed.contains_iff.2 ⟨_, hnew⟩
    · exact Keyed.contains_iff.2 ⟨p, hnew.trans hget⟩
  · rwa [hp]

theorem Prepares.listed (h : Prepares l l') (hl : l.conn.isPrepared id = true) :
    l'.conn.isPrepared id = true :=
  h.induct (P := fun m => m.conn.isPrepared id = true) (fun _ _ _ hm => prepareOne_listed hm) hl

theorem openSession_listed (h : l.conn.isPrepared id = true) :
    l.openSession.2.conn.isPrepared id = true := by
  rcases l.openSession_cases with ⟨e, n, _, ho⟩ | ⟨_, ho⟩
  · rwa [ho]
  · rw [ho]
    exact (prepareAgain_prepares l.conn.prepared.keys l.renewed).listed h

theorem steady_listed (id : Nat) : Steady fun l => l.conn.isPrepared id = true where
  submits _ h hl := by
    rw [h.conn]
    exact hl
  reconnects h hl :=
    h.keeps (P := fun m => m.conn.isPrepared id = true) (fun _ _ _ _ _ hm => hm)
      (fun _ => openSession_listed) hl
  givesUp h hl :=
    h.keeps (P := fun m => m.conn.isPrepared id = true) (fun _ _ _ _ _ hm => hm)
      (fun _ => openSession_listed) hl
  prepares h hl := h.listed hl
  close hl := hl

theorem Submits.counts {f : Session.Call α} {r : Except NativeError α} (hf : Session.Plain f)
    (h : Submits f l r m) : m.server.counts = l.server.counts := by
  cases h with
  | closed => rfl
  | @native ses ses' server r opened ran =>
    have hk := (hf.keeps ses l.server).2.2
    rwa [ran] at hk

theorem steady_counts (c : IdMap Nat) : Steady fun l => l.server.counts = c where
  submits hf h hl := (h.counts hf).trans hl
  reconnects h hl := h.reached.2.2.2.trans hl
  givesUp h hl := h.reached.2.2.2.2.trans hl
  prepares h hl := h.kept.server.counts.trans hl
  close hl := hl

/-- What ends a call with a statement's values, when the server reports it: the script, or the
session's count of values, where a scripted count hid the marks of the text. -/
theorem bound_reported {f : Session.Call α} {s : Statement} {vs : List Value} {e : NativeError}
    (hf : Session.Runs f (·.bound s.id vs)) (hl : l.Coherent)
    (registered : l.conn.registry.get? s.id = some s.template) (hv : s.values = .ok vs)
    (listed : l.conn.isPrepared s.id = true) (h : l.call .retry f = (.error (.database e), l')) :
    (∃ text : String, e.message = s!"injected failure for '{text}'") ∨
      (l.server.counts.get? s.id ≠ none ∧ ∃ takes got, e = Session.wrongCount s.id takes got) := by
  obtain ⟨xs, k, _, losses, decides, _⟩ := (call_iff_course f l _).1 h
  have hk : k.Coherent := losses.steady steady_coherent hf.plain hl
  have hlisted := losses.steady (steady_listed s.id) hf.plain listed
  have hsetup : k.conn.setup = l.conn.setup :=
    losses.steady (steady_setup l.conn.setup) hf.plain rfl
  have hcounts : k.server.counts = l.server.counts :=
    losses.steady (steady_counts l.server.counts) hf.plain rfl
  cases decides with
  | reported submitted kind =>
    cases submitted with
    | closed =>
      -- the code of a closed connection asks for a reconnect
      rcases kind with hkind | hkind | hkind <;> cases hkind
    | @native ses ses' server r opened ran =>
      rcases hf.error ran with ⟨refused, _, _⟩ | ⟨text, _, _, hc⟩
      · obtain ⟨t, ht⟩ := hk s.id hlisted ses opened
        have htemplate : t = s.template := by
          have hreg := ht.registered
          rw [registry_eq hsetup, registered] at hreg
          exact (Option.some.inj hreg).symm
        rcases Session.bound_error refused with ⟨unknown, _⟩ | ⟨p, hget, hlen, he⟩
        · rw [ht.known] at unknown
          cases unknown
        · rw [ht.known] at hget
          cases hget
          refine .inr ⟨fun hcount => hlen ?_, _, _, he⟩
          rw [ht.marks (by rwa [hcounts]), htemplate]
          exact Statement.length_of_values hv
      · exact .inl ⟨text, Server.message_of_check hc⟩

/-- A call on statement `id` never ends with the session not knowing it, and with the session
missing values only where the script sets its count. -/
structure Spared (l : Link) (id : Nat) (r : Except PoolError α) : Prop where
  known : ∀ session, r ≠ .error (.database (Session.notPrepared id session))
  counted : ∀ takes got, r = .error (.database (Session.wrongCount id takes got)) →
    l.server.counts.get? id ≠ none

private theorem injected_head (text : String) :
    (s!"injected failure for '{text}'").toList.head? = some 'i' := by
  simp [toString]

private theorem notPrepared_head (id session : Nat) :
    (Session.notPrepared id session).message.toList.head? = some 's' := by
  simp [Session.notPrepared, toString]

private theorem wrongCount_head (id takes got : Nat) :
    (Session.wrongCount id takes got).message.toList.head? = some 's' := by
  simp [Session.wrongCount, toString]

theorem spared_of_reported {id : Nat} {r : Except PoolError α}
    (h : ∀ e, r = .error (.database e) →
      (∃ text : String, e.message = s!"injected failure for '{text}'") ∨
        (l.server.counts.get? id ≠ none ∧ ∃ takes got, e = Session.wrongCount id takes got)) :
    Spared l id r where
  known session hr := by
    rcases h _ hr with ⟨text, hm⟩ | ⟨_, takes, got, he⟩
    · have hhead := notPrepared_head id session
      rw [hm, injected_head] at hhead
      cases hhead
    · cases he
  counted takes got hr := by
    rcases h _ hr with ⟨text, hm⟩ | ⟨hcount, _⟩
    · have hhead := wrongCount_head id takes got
      rw [hm, injected_head] at hhead
      cases hhead
    · exact hcount

theorem withBound_spared {s : Statement} {vs : List Value} {g : Nat → List Value → Session.Call α}
    (hg : ∀ id vs, Session.Runs (g id vs) (·.bound id vs)) (hl : l.Coherent)
    (registered : l.conn.registry.get? s.id = some s.template) (hv : s.values = .ok vs) :
    Spared l s.id (l.withBound .retry s g).1 := by
  apply spared_of_reported
  intro e he
  rcases l.withBound_cases .retry s g with ⟨p, _, hb⟩ | ⟨_, _, _, hb⟩ | ⟨ws, hw, listed, hb⟩
  · rw [hb] at he
    cases he
  · rw [hb] at he
    cases he
  · rw [hb] at he
    cases hv.symm.trans hw
    have hcall : l.call .retry (g s.id vs) = (.error (.database e), (l.call .retry (g s.id vs)).2) :=
      Prod.ext he rfl
    exact bound_reported (hg s.id vs) hl registered hv listed hcall

theorem Spared.map {β : Type} {r : Except PoolError α} (h : Spared l id r) (f : α → β) :
    Spared l id (r.map f) := by
  have same (e : PoolError) (hr : r.map f = .error e) : r = .error e := by
    cases r with
    | error e' =>
      cases hr
      rfl
    | ok a => cases hr
  exact ⟨fun session hr => h.known session (same _ hr),
    fun takes got hr => h.counted takes got (same _ hr)⟩

def OpensSucceed (l : Link) (steps : List Step) : Prop :=
  ∀ before after, steps = before ++ .request .openSession :: after →
    (l.run before).openSession.1 = .ok ()

theorem opensSucceed_nil : l.OpensSucceed [] := by
  intro before after h
  simp at h

theorem opensSucceed_cons {s : Step} {steps : List Step} : l.OpensSucceed (s :: steps) ↔
    (s = .request .openSession → l.openSession.1 = .ok ()) ∧ (l.step s).OpensSucceed steps := by
  constructor
  · intro opened
    refine ⟨fun hs => opened [] steps (by rw [hs]; rfl), fun before after h => ?_⟩
    exact opened (s :: before) after (by rw [h]; rfl)
  · rintro ⟨first, rest⟩ before after h
    cases before with
    | nil =>
      obtain ⟨hs, _⟩ := List.cons.inj h
      exact first hs
    | cons s' before =>
      obtain ⟨hs, hrest⟩ := List.cons.inj h
      subst hs
      exact rest before after hrest

theorem counts_follow {s : Server} {d : Direction} (h : (s.follow d).counts.get? id = none) :
    s.counts.get? id = none := by
  cases d with
  | refuseConnects | addRule | findNothingFor => exact h
  | reportCount i count =>
    simp only [Server.follow, Server.reportCount, Keyed.get?_insert] at h
    split at h
    · cases h
    · exact h

theorem step_coherent (s : Step) (opened : s = .request .openSession → l.openSession.1 = .ok ())
    (hl : l.Coherent) : (l.step s).Coherent := by
  cases s with
  | request q =>
    apply steady_coherent.perform q _ hl
    intro hq
    apply coherent_of_openSession (l := l)
    exact Prod.ext (opened (by rw [hq])) rfl
  | direction d =>
    intro id hid ses hs
    obtain ⟨t, ht⟩ := hl id hid ses hs
    exact ⟨t, ht.registered, ht.known, ht.listed, fun hcount => ht.marks (counts_follow hcount)⟩

theorem run_coherent {steps : List Step} (opened : l.OpensSucceed steps) (hl : l.Coherent) :
    (l.run steps).Coherent := by
  induction steps generalizing l with
  | nil => exact hl
  | cons s steps ih =>
    obtain ⟨first, rest⟩ := opensSucceed_cons.1 opened
    exact ih rest (step_coherent s first hl)

/-- After any calls of a connection whose direct opens went well, its session is ready for every
statement of the table, and never refuses a bound statement of the registry by its own checks. -/
theorem run_statements_ready (closed : l.conn.session = none) (steps : List Step)
    (opened : l.OpensSucceed steps) :
    let m := l.run steps
    (∀ ses, m.conn.session = some ses → ∀ id, m.conn.isPrepared id = true →
      ∃ t, Ready m ses id t) ∧
    ∀ s vs, l.conn.registry.get? s.id = some s.template → s.values = .ok vs →
      Spared m s.id (m.executeBound s).1 ∧ Spared m s.id (m.queryBound s).1 := by
  intro m
  have hm : m.Coherent := run_coherent opened (coherent_of_closed closed)
  have hsetup : m.conn.setup = l.conn.setup := l.run_setup steps
  constructor
  · intro ses hs id hid
    exact hm id hid ses hs
  · intro s vs registered hv
    rw [← registry_eq hsetup] at registered
    have hexecute := withBound_spared Session.executePrepared_runs hm registered hv
    have hquery := withBound_spared Session.queryPrepared_runs hm registered hv
    exact ⟨hexecute, hquery.map Cursor.ofTable?⟩

/-- A new connection that knows `SELECT ?` and has two tries at a lost session. -/
def fresh : Link where
  conn := {
    login := ⟨"localhost", "3306", "trinity", "trinity", "world", false⟩
    side := .sync
    registry := ({} : Registry).insert boundSelect.template
    policy := ⟨2, .zero⟩ }
  server := {}

/-- The session is lost, and the first try at another fails while the statement is prepared. -/
def halfRevived : List Step :=
  [.request .openSession, .request .prepareStatements,
    .direction (.addRule ⟨"SELECT ? [", 2013, some 1⟩),
    .direction (.addRule ⟨"PREPARE", 1105, some 1⟩), .request (.executeBound boundSelect)]

theorem run_statements_ready_halfRevived : fresh.conn.session = none ∧ fresh.OpensSucceed halfRevived ∧
    (fresh.run halfRevived).conn.session.map Session.id = some 3 ∧
    (fresh.run halfRevived).conn.isPrepared 1 = true ∧
    (∃ ses t, (fresh.run halfRevived).conn.session = some ses ∧
      Ready (fresh.run halfRevived) ses 1 t) ∧
    Spared (fresh.run halfRevived) boundSelect.id
      ((fresh.run halfRevived).executeBound boundSelect).1 := by
  have opened : fresh.OpensSucceed halfRevived := by
    refine opensSucceed_cons.2 ⟨fun _ => by rfl, ?_⟩
    iterate 4 refine opensSucceed_cons.2 ⟨fun h => (by cases h), ?_⟩
    exact opensSucceed_nil
  obtain ⟨ready, spared⟩ := run_statements_ready (l := fresh) rfl halfRevived opened
  have hid : (fresh.run halfRevived).conn.session.map Session.id = some 3 := by decide +kernel
  have hp : (fresh.run halfRevived).conn.isPrepared 1 = true := by decide +kernel
  obtain ⟨ses, hs, _⟩ := Option.map_eq_some_iff.1 hid
  obtain ⟨t, ht⟩ := ready ses hs 1 hp
  exact ⟨rfl, opened, hid, hp, ⟨ses, t, hs, ht⟩, (spared boundSelect [.int 7] rfl rfl).1⟩

end Link
end QueryPool
