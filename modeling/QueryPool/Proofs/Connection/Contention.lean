import QueryPool.Proofs.Connection.Recovery
import QueryPool.Proofs.Connection.Tries
import QueryPool.Proofs.Connection.Visibility
import QueryPool.Proofs.Server.Contention

namespace QueryPool

/-- What a run of elements with these texts has checked, from its begin to its commit. -/
def script (texts : List String) : List String := "START TRANSACTION" :: (texts ++ ["COMMIT"])

namespace Server

/-- The server after tries that lost a race at the places `falls` of the script: the elements before
that place ran, and what had begun was rolled back. -/
def raced (s : Server) (texts : List String) (falls : List Nat) (rules : List Rule) : Server :=
  { s with
    rules
    executed := s.executed ++ falls.flatMap fun i => texts.take (i - 1)
    rollbacks := s.rollbacks + falls.countP (0 < ·) }

/-- The server after a try that went through. -/
def showing (s : Server) (texts : List String) : Server :=
  { s with
    executed := s.executed ++ texts
    committed := s.committed ++ texts
    commits := s.commits + 1 }

theorem raced_cons (s : Server) (texts : List String) (i : Nat) (falls : List Nat)
    (rules rules' : List Rule) :
    (s.raced texts [i] rules).raced texts falls rules' = s.raced texts (i :: falls) rules' := by
  simp only [raced, List.flatMap_cons, List.flatMap_nil, List.append_nil, List.append_assoc,
    List.countP_cons, List.countP_nil, Nat.zero_add, Nat.add_assoc,
    Nat.add_comm (List.countP _ falls)]

end Server

namespace Link

variable {α : Type} {f : Session.Call α} {l m : Link} {ses : Session} {s : Server} {e : NativeError}
  {els : List Element} {texts p : List String} {t : Transaction} {rules : List Rule}

theorem call_of_ok {a : α} (onLoss : OnLoss) (h : l.submit f = (.ok a, m)) :
    l.call onLoss f = (.ok a, m) := by
  simp only [call, persist, h]

theorem call_of_deadlock (onLoss : OnLoss) (h : l.submit f = (.error e, m))
    (lost : e.kind = .deadlock) : l.call onLoss f = (.error (.database e), m) := by
  simp only [call, persist, h, lost]

/-- The link `l` on a server `s`, its session `ses` in a transaction with these statements, or in
none. -/
def holding (l : Link) (ses : Session) (pending : Option (List String)) (s : Server) : Link where
  conn := { l.conn with session := some { ses with pending } }
  server := s

theorem holding_self (opened : l.conn.session = some ses) (idle : ses.pending = none) (s : Server) :
    l.holding ses none s = { l with server := s } := by
  rw [holding, ← idle, ← opened]

/-- The element runs as `text` on the session, and neither it nor the connection refuses it. -/
inductive Takes (l : Link) (ses : Session) : Element → String → Prop where
  | raw (sql : String) : Takes l ses (.raw sql) sql
  | bound {s : Statement} {vs : List Value} {text : String} (full : s.values = .ok vs)
      (listed : l.conn.isPrepared s.id = true) (known : ses.bound s.id vs = .ok text) :
      Takes l ses (.bound s) text

inductive TakesAll (l : Link) (ses : Session) : List Element → List String → Prop where
  | nil : TakesAll l ses [] []
  | cons {el : Element} {text : String} {els : List Element} {texts : List String}
      (first : Takes l ses el text) (rest : TakesAll l ses els texts) :
      TakesAll l ses (el :: els) (text :: texts)

theorem Takes.runElement {el : Element} {text : String} (h : Takes l ses el text) :
    ∃ f : Session.Call Nat,
      (l.holding ses (some p) s).runElement el = (l.holding ses (some p) s).call .report f ∧
      (l.holding ses (some p) s).submit f =
        (l.holding ses (some p) s).submit (Session.execute text) := by
  cases h with
  | raw sql => exact ⟨_, rfl, rfl⟩
  | @bound st vs text full listed known =>
    refine ⟨Session.executePrepared st.id vs, ?_, ?_⟩
    · have listed : (l.holding ses (some p) s).conn.isPrepared st.id = true := listed
      simp only [Link.runElement, executeBoundWith, withBound, full, listed, if_true]
    · have known : Session.bound { ses with pending := some p } st.id vs = .ok text := known
      simp only [submit, holding, Session.executePrepared, known]

/-- A text that no rule charges runs. -/
theorem Takes.spared {el : Element} {text : String} (h : Takes l ses el text)
    (spared : Rule.charge text s.rules = none) :
    (l.holding ses (some p) s).runElement el =
      (.ok 1, l.holding ses (some (p ++ [text])) { s with executed := s.executed ++ [text] }) := by
  obtain ⟨f, hrun, hf⟩ := h.runElement
  rw [hrun]
  apply call_of_ok
  rw [hf]
  simp only [submit, holding, Session.execute, Session.run, Server.check_spared spared]

theorem Takes.charged {el : Element} {text : String} {code : Nat} (h : Takes l ses el text)
    (contended : Rule.Contended s.rules) (charged : Rule.charge text s.rules = some (code, rules)) :
    ∃ e, e.kind = .deadlock ∧ (l.holding ses (some p) s).runElement el =
      (.error (.database e), l.holding ses (some p) { s with rules }) := by
  obtain ⟨f, hrun, hf⟩ := h.runElement
  obtain ⟨e, lost, hc⟩ := Server.check_charged_contended contended charged
  refine ⟨e, lost, ?_⟩
  rw [hrun]
  refine call_of_deadlock .report ?_ lost
  rw [hf]
  simp only [submit, holding, Session.execute, Session.run, hc]

/-- The elements pass up to the first that loses a race. -/
theorem runElements_race (takes : TakesAll l ses els texts) (contended : Rule.Contended s.rules) :
    match Rule.race texts s.rules with
    | none => (l.holding ses (some p) s).runElements els = (.ok (),
        l.holding ses (some (p ++ texts)) { s with executed := s.executed ++ texts })
    | some (i, rules) => ∃ e, e.kind = .deadlock ∧ (l.holding ses (some p) s).runElements els =
        (.error (.database e), l.holding ses (some (p ++ texts.take i))
          { s with rules, executed := s.executed ++ texts.take i }) := by
  induction takes generalizing p s with
  | nil => simp [Rule.race, runElements]
  | @cons el text els texts first rest ih =>
    cases hc : Rule.charge text s.rules with
    | some charged =>
      obtain ⟨code, rules⟩ := charged
      obtain ⟨e, lost, hrun⟩ := first.charged (p := p) contended hc
      simp only [Rule.race, hc]
      exact ⟨e, lost, by simp [runElements, hrun]⟩
    | none =>
      have hrun := first.spared (p := p) hc
      have rest := ih (p := p ++ [text]) (s := { s with executed := s.executed ++ [text] }) contended
      simp only [Rule.race, hc, runElements, hrun]
      cases hr : Rule.race texts s.rules with
      | none =>
        simp only [hr] at rest
        simpa using rest
      | some lost =>
        obtain ⟨i, rules⟩ := lost
        simp only [hr] at rest
        simpa using rest

theorem begin_spared (l : Link) (ses : Session)
    (spared : Rule.charge "START TRANSACTION" s.rules = none) :
    (l.holding ses none s).call .retry Session.begin = (.ok (), l.holding ses (some []) s) := by
  apply call_of_ok
  simp only [submit, holding, Session.begin, Server.check_spared spared]

theorem begin_charged (l : Link) (ses : Session) {code : Nat} (contended : Rule.Contended s.rules)
    (charged : Rule.charge "START TRANSACTION" s.rules = some (code, rules)) :
    ∃ e, e.kind = .deadlock ∧ (l.holding ses none s).call .retry Session.begin =
      (.error (.database e), l.holding ses none { s with rules }) := by
  obtain ⟨e, lost, hc⟩ := Server.check_charged_contended contended charged
  refine ⟨e, lost, call_of_deadlock .retry ?_ lost⟩
  simp only [submit, holding, Session.begin, hc]

/-- A lost race is rolled back. -/
theorem rollbackAfter_race (lost : e.kind = .deadlock) :
    (l.holding ses (some p) s).rollbackAfter (.database e) =
      l.holding ses none { s with rollbacks := s.rollbacks + 1 } := by
  simp only [rollbackAfter, PoolError.kind?, PoolError.native?, Option.map_some, lost]
  rfl

theorem commitOpen_spared (l : Link) (ses : Session) (spared : Rule.charge "COMMIT" s.rules = none) :
    (l.holding ses (some p) s).commitOpen = (.ok (), l.holding ses none
      { s with committed := s.committed ++ p, commits := s.commits + 1 }) := by
  have hc : (l.holding ses (some p) s).call .report Session.commit = (.ok (), l.holding ses none
      { s with committed := s.committed ++ p, commits := s.commits + 1 }) := by
    apply call_of_ok
    simp only [submit, holding, Session.commit, Server.check_spared spared]
  simp only [commitOpen, hc]

theorem commitOpen_charged (l : Link) (ses : Session) {code : Nat} (contended : Rule.Contended s.rules)
    (charged : Rule.charge "COMMIT" s.rules = some (code, rules)) :
    ∃ e, e.kind = .deadlock ∧ (l.holding ses (some p) s).commitOpen = (.error (.database e),
      l.holding ses none { s with rules, rollbacks := s.rollbacks + 1 }) := by
  obtain ⟨e, lost, hc⟩ := Server.check_charged_contended contended charged
  have failed : (l.holding ses (some p) s).call .report Session.commit =
      (.error (.database e), l.holding ses (some p) { s with rules }) := by
    refine call_of_deadlock .report ?_ lost
    simp only [submit, holding, Session.commit, hc]
  refine ⟨e, lost, ?_⟩
  simp only [commitOpen, failed, rollbackAfter_race lost]

/-- A run goes through its script up to the first place that loses a race. -/
theorem runTransaction_race (filled : t.elements ≠ []) (takes : TakesAll l ses t.elements texts)
    (contended : Rule.Contended s.rules) :
    match Rule.race (script texts) s.rules with
    | none => (l.holding ses none s).runTransaction t = (.ok (), l.holding ses none (s.showing texts))
    | some (i, rules) => ∃ e, e.kind = .deadlock ∧ (l.holding ses none s).runTransaction t =
        (.error (.database e), l.holding ses none (s.raced texts [i] rules)) := by
  have filled : t.elements.isEmpty = false := by simpa using filled
  have elements := runElements_race (p := []) takes contended
  cases hb : Rule.charge "START TRANSACTION" s.rules with
  | some charged =>
    obtain ⟨code, rules⟩ := charged
    obtain ⟨e, lost, hbegin⟩ := begin_charged l ses contended hb
    simp only [script, Rule.race, hb]
    exact ⟨e, lost, by simp [runTransaction, filled, hbegin, Server.raced]⟩
  | none =>
    have begun := begin_spared l ses hb
    simp only [script, Rule.race, hb, Rule.race_append]
    cases hr : Rule.race texts s.rules with
    | some fall =>
      obtain ⟨i, rules⟩ := fall
      simp only [hr] at elements
      obtain ⟨e, lost, hrun⟩ := elements
      simp only [Option.some_or, Option.map_some]
      refine ⟨e, lost, ?_⟩
      simp [runTransaction, filled, begun, hrun, rollbackAfter_race lost, Server.raced]
    | none =>
      simp only [hr, List.nil_append] at elements
      cases hc : Rule.charge "COMMIT" s.rules with
      | some charged =>
        obtain ⟨code, rules⟩ := charged
        obtain ⟨e, lost, hcommit⟩ := commitOpen_charged l ses (p := texts)
          (s := { s with executed := s.executed ++ texts }) contended hc
        simp only [Option.none_or, Option.map_some, Nat.zero_add]
        refine ⟨e, lost, ?_⟩
        simp [runTransaction, filled, begun, elements, hcommit, Server.raced]
      | none =>
        have committed := commitOpen_spared l ses (p := texts)
          (s := { s with executed := s.executed ++ texts }) hc
        simp only [Option.map_none, Option.none_or]
        simp [runTransaction, filled, begun, elements, committed, Server.showing]

theorem attempt_eq_of_ok (h : l.runTransaction t = (.ok (), m)) : l.attempt t = (.ok (), m) := by
  rw [attempt, restarting]
  simp only [h]

theorem attempt_eq_of_deadlock (h : l.runTransaction t = (.error (.database e), m))
    (lost : e.kind = .deadlock) : l.attempt t = (.error (.database e), m) := by
  rw [attempt, restarting]
  simp [h, lost]

/-- Each lost race is one try of the commit. -/
theorem deadlocks_of_races {falls : List Nat} {rules' : List Rule} (filled : t.elements ≠ [])
    (takes : TakesAll l ses t.elements texts) (contended : Rule.Contended rules)
    (h : Rule.Races (script texts) rules falls rules') (s : Server) :
    Deadlocks t falls.length (l.holding ses none { s with rules })
      (l.holding ses none (s.raced texts falls rules')) := by
  induction h generalizing s with
  | none rules => simpa [Server.raced] using Deadlocks.none _
  | @more rules rules' _ i falls hit _ ih =>
    -- a lost try leaves the session and the connection, so the next begins in the same state
    have run := runTransaction_race (s := { s with rules }) filled takes contended
    simp only [hit] at run
    obtain ⟨e, lost, hrun⟩ := run
    obtain ⟨_, _, _, charged, _⟩ := Rule.race_some hit
    have rest := ih (contended.charged charged).2.1 (s.raced texts [i] rules')
    rw [Server.raced_cons] at rest
    exact .more (attempt_eq_of_deadlock hrun lost) (by simp [PoolError.isDeadlock, lost]) rest

theorem openSession_registered (h : l.Registered) : l.openSession.2.Registered := by
  rcases l.openSession_cases with ⟨_, _, _, ho⟩ | ⟨_, ho⟩
  · rw [ho]
    exact h
  · rw [ho]
    refine (prepareAgain_prepares l.conn.prepared.keys l.renewed).induct
      (fun _ t ht hm => prepareOne_registered t ht hm) ?_
    intro ses hs id p hp
    cases hs
    simp at hp

theorem steady_registered : Steady Registered where
  submits hf h hl := h.registered hf hl
  reconnects h _ := h.idle.registered
  givesUp h _ := (idle_of_closed h.reached.1).registered
  prepares h hl := h.induct (fun _ t ht hm => prepareOne_registered t ht hm) hl
  close _ := (idle_of_closed rfl).registered

theorem run_registered {steps : List Step} (hl : l.Registered) : (l.run steps).Registered :=
  steady_registered.run (fun _ => openSession_registered) (fun _ _ hm => hm) steps hl

/-- A statement that is accepted is taken by a session that knows it. -/
theorem Accepts.takes {s : Statement} (h : l.Accepts s) (registered : l.Registered) (sound : l.Sound)
    (uncounted : l.server.counts.get? s.id = none) (opened : l.conn.session = some ses)
    (known : ses.prepared.contains s.id = true) :
    ∃ text, l.conn.registry.text? s = some text ∧ Takes l ses (.bound s) text := by
  obtain ⟨vs, hv⟩ := h.full
  obtain ⟨q, hq⟩ := Keyed.contains_iff.1 known
  have template {t : Template} (ht : l.conn.registry.get? s.id = some t) : t = s.template :=
    (Option.some.inj (h.registered.symm.trans ht)).symm
  obtain ⟨t, ht, hsql⟩ := registered ses opened s.id q hq
  obtain ⟨t', ht', marks⟩ := sound s.id h.prepared
  rw [template ht] at hsql
  have enough : vs.length = Session.countMarks q.2 := by
    rw [hsql, ← template ht', marks uncounted, template ht']
    exact Statement.length_of_values hv
  have hb : ses.bound s.id vs = .ok (Session.boundText q.2 vs) := by
    simp only [Session.bound, hq, enough, if_true]
  exact ⟨_, text?_of_bound registered opened hv hb, .bound hv h.prepared hb⟩

theorem takesAll_of_accepts (accepted : ∀ el ∈ els, l.AcceptsElement el) (registered : l.Registered)
    (sound : l.Sound) (uncounted : ∀ id, l.server.counts.get? id = none)
    (opened : l.conn.session = some ses)
    (known : ∀ s, .bound s ∈ els → ses.prepared.contains s.id = true) :
    ∃ texts, els.mapM (Element.text? l.conn.registry) = some texts ∧ TakesAll l ses els texts := by
  induction els with
  | nil => exact ⟨[], rfl, .nil⟩
  | cons el els ih =>
    obtain ⟨texts, htexts, rest⟩ := ih (fun el hel => accepted el (List.mem_cons_of_mem _ hel))
      fun s hs => known s (List.mem_cons_of_mem _ hs)
    have first : ∃ text, el.text? l.conn.registry = some text ∧ Takes l ses el text := by
      cases el with
      | raw sql => exact ⟨sql, rfl, .raw sql⟩
      | bound s =>
        exact (accepted (.bound s) List.mem_cons_self).takes registered sound (uncounted s.id) opened
          (known s List.mem_cons_self)
    obtain ⟨text, htext, takes⟩ := first
    refine ⟨text :: texts, ?_, .cons takes rest⟩
    simp only [List.mapM_cons, htext, htexts]
    rfl

/-- On a server that does no more than let calls lose races, each a number of times, every commit
ends. Its tries lose races at places of the script that the rules determine, as many as there are
firings; each leaves the connection as it was and shows nothing. With time for all of them the
commit goes well and shows its texts once. With less it gives up after the first of them, and
without any time after one try. -/
theorem commit_outlasts_contention (s : Setup) (server : Server) (steps : List Step)
    (t : Transaction) (reached : (made s server).run steps = l) (opened : l.conn.session = some ses)
    (idle : ses.pending = none) (filled : t.elements ≠ [])
    (accepted : ∀ el ∈ t.elements, l.AcceptsElement el)
    (known : ∀ st, .bound st ∈ t.elements → ses.prepared.contains st.id = true)
    (uncounted : ∀ id, l.server.counts.get? id = none)
    (contended : Rule.Contended l.server.rules) :
    ∃ texts falls rules,
      t.texts? l.conn.registry = some texts ∧
      Rule.Races (script texts) l.server.rules falls rules ∧ Rule.race (script texts) rules = none ∧
      falls.length + Rule.firings rules = l.server.firingsLeft ∧
      ∀ b : Budget,
        (falls.length ≤ b.retries →
          Deadlocks t falls.length l { l with server := l.server.raced texts falls rules } ∧
          (l.commit t b).1 =
            (.ok (), { l with server := (l.server.raced texts falls rules).showing texts })) ∧
        (b.retries < falls.length → ∃ rules',
          Rule.Races (script texts) l.server.rules (falls.take (b.retries + 1)) rules' ∧
          (l.commit t b).1 = (.error (.deadlocked b.limit),
            { l with server := l.server.raced texts (falls.take (b.retries + 1)) rules' })) ∧
        (b.limit = .zero → falls ≠ [] →
          (l.commit t b).1 = (.error (.deadlocked .zero), (l.attempt t).2)) := by
  have registered : l.Registered := reached ▸ run_registered (idle_of_closed rfl).registered
  have sound : l.Sound := reached ▸ run_sound fun _ hid => (Bool.false_ne_true hid).elim
  obtain ⟨texts, htexts, takes⟩ :=
    takesAll_of_accepts accepted registered sound uncounted opened known
  obtain ⟨falls, rules, races, through⟩ := contended.races_end (script texts)
  obtain ⟨contended', total⟩ := races.firings contended
  have held (s : Server) : l.holding ses none s = { l with server := s } :=
    holding_self opened idle s
  have lost {falls : List Nat} {rules : List Rule}
      (races : Rule.Races (script texts) l.server.rules falls rules) :
      Deadlocks t falls.length l { l with server := l.server.raced texts falls rules } := by
    have h := deadlocks_of_races filled takes contended races l.server
    rwa [held, held] at h
  refine ⟨texts, falls, rules, htexts, races, through, ?_, fun b => ⟨?_, ?_, ?_⟩⟩
  · rw [Server.firingsLeft_eq]
    omega
  · intro enough
    have run := runTransaction_race (s := l.server.raced texts falls rules) filled takes contended'
    have free : Rule.race (script texts) (l.server.raced texts falls rules).rules = none := through
    simp only [free, held] at run
    have last := attempt_eq_of_ok run
    refine ⟨lost races, ?_⟩
    rw [commit_eq, (lost races).ends ?_ (by omega), last]
    intro e he
    rw [last] at he
    cases he
  · intro short
    obtain ⟨rules', first⟩ := races.take (b.retries + 1)
    have hlen : (falls.take (b.retries + 1)).length = b.retries + 1 := by
      rw [List.length_take]
      omega
    have spent := lost first
    rw [hlen] at spent
    exact ⟨rules', first, by rw [commit_eq, spent.spent]⟩
  · intro zero lossy
    obtain ⟨i, falls, rfl⟩ := List.exists_cons_of_ne_nil lossy
    rw [commit_eq, b.none_at_zero zero, zero]
    cases lost races with
    | more tried deadlock _ => simp [retryDeadlocks, tried, deadlock]

/-- The statement is prepared, and then calls are to lose races: the begin, the first and the last
update, which a rule of its own matches as well, and the commit. -/
def busy : List Step :=
  [.request .openSession, .request .prepareStatements,
    .direction (.addRule ⟨"START", 1213, some 1⟩), .direction (.addRule ⟨"UPDATE", 1213, some 1⟩),
    .direction (.addRule ⟨"UPDATE b", 1213, some 1⟩), .direction (.addRule ⟨"COMMIT", 1213, some 1⟩)]

theorem commit_outlasts_contention_busy :
    let l := (made fresh.conn.setup {}).run busy
    l.server.firingsLeft = 4 ∧
    (l.commit mixed (.of (.ofMillis 1000) 4)).1.1 = .ok () ∧
    (l.commit mixed (.of (.ofMillis 1000) 4)).1.2.server.committed =
      ["UPDATE a", "SELECT ? [Int(7)]", "UPDATE b"] ∧
    (l.commit mixed (.of (.ofMillis 1000) 4)).1.2.server.rollbacks = 3 ∧
    (l.commit mixed (.of .zero 4)).1 = (.error (.deadlocked .zero), (l.attempt mixed).2) := by
  intro l
  have four : l.server.firingsLeft = 4 := by decide +kernel
  have opened : l.conn.session.isSome = true := by decide +kernel
  obtain ⟨ses, hses⟩ := Option.isSome_iff_exists.1 opened
  have idle : ses.pending = none := by
    have h : l.conn.session.all (fun ses => ses.pending.isNone) = true := by decide +kernel
    simpa [hses] using h
  have accepts : l.Accepts boundSelect :=
    ⟨by rw [registry_eq ((made fresh.conn.setup {}).run_setup busy)]; rfl, ⟨_, rfl⟩,
      by decide +kernel⟩
  have accepted : ∀ el ∈ mixed.elements, l.AcceptsElement el := by
    intro el hel
    simp only [mixed, List.mem_cons, List.not_mem_nil, or_false] at hel
    rcases hel with rfl | rfl | rfl
    · trivial
    · exact accepts
    · trivial
  have known : ∀ st, .bound st ∈ mixed.elements → ses.prepared.contains st.id = true := by
    intro st hst
    have h : l.conn.session.all (fun ses => ses.prepared.contains boundSelect.id) = true := by
      decide +kernel
    simp only [mixed, List.mem_cons, List.not_mem_nil, or_false, reduceCtorEq, false_or,
      Element.bound.injEq] at hst
    subst hst
    simpa [hses] using h
  have uncounted : ∀ id, l.server.counts.get? id = none := by
    have hcounts : l.server.counts.toList = [] := by decide +kernel
    intro id
    simp only [Keyed.get?, hcounts, List.find?_nil]
  have contended : Rule.Contended l.server.rules := by
    have hrules : l.server.rules = [⟨"START", 1213, some 1⟩, ⟨"UPDATE", 1213, some 1⟩,
        ⟨"UPDATE b", 1213, some 1⟩, ⟨"COMMIT", 1213, some 1⟩] := by decide +kernel
    rw [hrules]
    intro r hr _
    simp only [List.mem_cons, List.not_mem_nil, or_false] at hr
    rcases hr with rfl | rfl | rfl | rfl <;> exact ⟨rfl, Option.some_ne_none 1⟩
  obtain ⟨texts, falls, rules, htexts, races, through, total, outcome⟩ := commit_outlasts_contention
    fresh.conn.setup {} busy mixed rfl hses idle (List.cons_ne_nil _ _) accepted known uncounted
    contended
  have shown : texts = ["UPDATE a", "SELECT ? [Int(7)]", "UPDATE b"] :=
    Option.some.inj (htexts.symm.trans (by decide +kernel))
  have lossy : falls ≠ [] := by
    rintro rfl
    cases races
    subst shown
    exact absurd through (by decide +kernel)
  have total : falls.length + Rule.firings rules = 4 := total.trans four
  obtain ⟨_, ends⟩ := (outcome (.of (.ofMillis 1000) 4)).1 (show falls.length ≤ 4 by omega)
  refine ⟨four, by rw [ends], ?_, by decide +kernel, (outcome (.of .zero 4)).2.2 rfl lossy⟩
  rw [ends, ← shown]
  rfl

end Link
end QueryPool
