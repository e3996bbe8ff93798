import QueryPool.Server.Session

namespace QueryPool

/-- What ran on a server and what came of it. -/
structure Journal where
  executed : List String
  committed : List String
  commits : Nat
  rollbacks : Nat
  pings : Nat

namespace Server

def journal (s : Server) : Journal := ⟨s.executed, s.committed, s.commits, s.rollbacks, s.pings⟩

/-- A rule may have fired; nothing else happened. -/
def Charged (s s' : Server) : Prop := ∃ rules, s' = { s with rules }

namespace Charged

variable {s s' s'' : Server}

theorem refl (s : Server) : Charged s s := ⟨s.rules, rfl⟩

theorem trans (h : Charged s s') (h' : Charged s' s'') : Charged s s'' := by
  obtain ⟨_, rfl⟩ := h
  obtain ⟨rules, rfl⟩ := h'
  exact ⟨rules, rfl⟩

theorem journal (h : Charged s s') : s'.journal = s.journal := by
  obtain ⟨_, rfl⟩ := h
  rfl

theorem counts (h : Charged s s') : s'.counts = s.counts := by
  obtain ⟨_, rfl⟩ := h
  rfl

theorem connects (h : Charged s s') : s'.connects = s.connects := by
  obtain ⟨_, rfl⟩ := h
  rfl

end Charged

theorem check_charged (s : Server) (text : String) : Charged s (s.check text).2 := by
  unfold check
  split
  · exact .refl s
  · exact ⟨_, rfl⟩

theorem charged_of_check {s s' : Server} {text : String} {r : Except NativeError Unit}
    (h : s.check text = (r, s')) : Charged s s' := by
  have hc := s.check_charged text
  rwa [h] at hc

theorem check_ok {s s' : Server} {text : String} {u : Unit}
    (h : s.check text = (.ok u, s')) : s' = s := by
  unfold check at h
  split at h <;> cases h
  rfl

/-- Every failure of the script says so in its message. -/
theorem message_of_check {s s' : Server} {text : String} {e : NativeError}
    (h : s.check text = (.error e, s')) : e.message = s!"injected failure for '{text}'" := by
  unfold check at h
  split at h
  · cases h
  · cases h
    rfl

/-- A connect is refused as often as the script asks for, and then gives a new session. -/
theorem connect_cases (s : Server) (login : Login) :
    (s.refusals = 0 ∧ s.connect login = (.ok { id := s.sessions + 1 },
      { s with connects := s.connects + 1, sessions := s.sessions + 1 })) ∨
    (∃ n, s.refusals = n + 1 ∧ s.connect login =
      (.error ⟨Code.unreachable, s!"can't connect to server on '{login.host}'"⟩,
        { s with connects := s.connects + 1, refusals := n })) := by
  cases hr : s.refusals with
  | zero => exact .inl ⟨rfl, by simp [connect, hr]⟩
  | succ n => exact .inr ⟨n, rfl, by simp [connect, hr]⟩

end Server

namespace Session

variable {α β : Type}

theorem run_ok {text : String} {ses ses' : Session} {srv srv' : Server} {u : Unit}
    (h : run text ses srv = (.ok u, ses', srv')) :
    ses' = { ses with pending := ses.pending.map (· ++ [text]) } ∧
    srv' = { srv with
      executed := srv.executed ++ [text]
      committed := if ses.pending.isNone then srv.committed ++ [text] else srv.committed } := by
  unfold run at h
  split at h
  · cases h
  · rename_i hc
    cases Server.check_ok hc
    obtain ⟨id, prepared, pending⟩ := ses
    cases pending <;> (cases h; exact ⟨rfl, rfl⟩)

theorem run_error {text : String} {ses ses' : Session} {srv srv' : Server} {e : NativeError}
    (h : run text ses srv = (.error e, ses', srv')) :
    ses' = ses ∧ srv.check text = (.error e, srv') := by
  unfold run at h
  split at h
  · rename_i hc
    cases h
    exact ⟨rfl, hc⟩
  · split at h <;> cases h

/-- A call that keeps the session's identity, its statements and the scripted counts, that makes no
connect, and that when it fails leaves no trace but a fired rule. -/
structure Plain (f : Call α) : Prop where
  keeps : ∀ ses srv, (f ses srv).2.1.id = ses.id ∧ (f ses srv).2.1.prepared = ses.prepared ∧
    (f ses srv).2.2.counts = srv.counts
  connects : ∀ ses srv, (f ses srv).2.2.connects = srv.connects
  failed : ∀ {ses srv e ses' srv'}, f ses srv = (.error e, ses', srv') →
    ses' = ses ∧ Server.Charged srv srv'

/-- A call that does nothing but run one text, which the session knows or refuses to give. -/
structure Runs (f : Call α) (text : Session → Except NativeError String) : Prop where
  run : ∀ ses srv t, text ses = .ok t →
    (f ses srv).1.map (fun _ => ()) = (run t ses srv).1 ∧ (f ses srv).2 = (run t ses srv).2
  refuse : ∀ ses srv e, text ses = .error e → f ses srv = (.error e, ses, srv)

namespace Runs

variable {f : Call α} {text : Session → Except NativeError String}
  {ses ses' : Session} {srv srv' : Server}

theorem ok (h : Runs f text) {a : α} (hf : f ses srv = (.ok a, ses', srv')) :
    ∃ t, text ses = .ok t ∧ Session.run t ses srv = (.ok (), ses', srv') := by
  cases ht : text ses with
  | error e =>
    have := h.refuse ses srv e ht
    rw [hf] at this
    cases this
  | ok t =>
    obtain ⟨h1, h2⟩ := h.run ses srv t ht
    rw [hf] at h1 h2
    exact ⟨t, rfl, Prod.ext h1.symm h2.symm⟩

theorem error (h : Runs f text) {e : NativeError} (hf : f ses srv = (.error e, ses', srv')) :
    (text ses = .error e ∧ ses' = ses ∧ srv' = srv) ∨
      ∃ t, text ses = .ok t ∧ ses' = ses ∧ srv.check t = (.error e, srv') := by
  cases ht : text ses with
  | error e' =>
    have := h.refuse ses srv e' ht
    rw [hf] at this
    cases this
    exact .inl ⟨rfl, rfl, rfl⟩
  | ok t =>
    obtain ⟨h1, h2⟩ := h.run ses srv t ht
    rw [hf] at h1 h2
    obtain ⟨hs, hc⟩ := run_error (Prod.ext h1.symm h2.symm : Session.run t ses srv = (.error e, ses', srv'))
    exact .inr ⟨t, rfl, hs, hc⟩

theorem plain (h : Runs f text) : Plain f where
  keeps ses srv := by
    rcases hf : f ses srv with ⟨_ | a, ses', srv'⟩
    · rcases h.error hf with ⟨_, rfl, rfl⟩ | ⟨t, _, rfl, hc⟩
      · exact ⟨rfl, rfl, rfl⟩
      · exact ⟨rfl, rfl, (Server.charged_of_check hc).counts⟩
    · obtain ⟨t, _, ht⟩ := h.ok hf
      obtain ⟨rfl, rfl⟩ := run_ok ht
      exact ⟨rfl, rfl, rfl⟩
  connects ses srv := by
    rcases hf : f ses srv with ⟨_ | a, ses', srv'⟩
    · rcases h.error hf with ⟨_, rfl, rfl⟩ | ⟨t, _, rfl, hc⟩
      · rfl
      · exact (Server.charged_of_check hc).connects
    · obtain ⟨t, _, ht⟩ := h.ok hf
      obtain ⟨rfl, rfl⟩ := run_ok ht
      rfl
  failed hf := by
    rcases h.error hf with ⟨_, rfl, rfl⟩ | ⟨t, _, rfl, hc⟩
    · exact ⟨rfl, .refl _⟩
    · exact ⟨rfl, Server.charged_of_check hc⟩

end Runs

theorem execute_runs (sql : String) : Runs (execute sql) fun _ => .ok sql where
  run ses srv t ht := by
    cases ht
    unfold execute
    split <;> simp_all [Except.map]
  refuse _ _ _ h := nomatch h

theorem ask_runs (text : String) (row : Row) : Runs (ask text row) fun _ => .ok text where
  run ses srv t ht := by
    cases ht
    unfold ask
    split <;> simp_all [Except.map]
  refuse _ _ _ h := nomatch h

theorem query_runs (sql : String) : Runs (query sql) fun _ => .ok sql := ask_runs sql _

theorem executePrepared_runs (id : Nat) (values : List Value) :
    Runs (executePrepared id values) (·.bound id values) where
  run ses srv t ht := by
    simp only [executePrepared, ht]
    exact (execute_runs t).run ses srv t rfl
  refuse ses srv e ht := by simp only [executePrepared, ht]

theorem queryPrepared_runs (id : Nat) (values : List Value) :
    Runs (queryPrepared id values) (·.bound id values) where
  run ses srv t ht := by
    simp only [queryPrepared, ht]
    exact (ask_runs t _).run ses srv t rfl
  refuse ses srv e ht := by simp only [queryPrepared, ht]

theorem ping_plain : Plain ping where
  keeps ses srv := by
    unfold ping
    split
    · rename_i hc
      cases Server.check_ok hc
      exact ⟨rfl, rfl, rfl⟩
    · rename_i hc
      exact ⟨rfl, rfl, (Server.charged_of_check hc).counts⟩
  connects ses srv := by
    have hc := (srv.check_charged "PING").connects
    unfold ping
    split <;> simp_all
  failed {ses srv e ses' srv'} h := by
    unfold ping at h
    split at h
    · cases h
    · rename_i hc
      cases h
      exact ⟨rfl, Server.charged_of_check hc⟩

theorem ping_ok {ses ses' : Session} {srv srv' : Server} {u : Unit}
    (h : ping ses srv = (.ok u, ses', srv')) :
    ses' = ses ∧ srv' = { srv with pings := srv.pings + 1 } := by
  unfold ping at h
  split at h
  · rename_i hc
    cases Server.check_ok hc
    cases h
    exact ⟨rfl, rfl⟩
  · cases h

theorem begin_ok {ses ses' : Session} {srv srv' : Server} {u : Unit}
    (h : begin ses srv = (.ok u, ses', srv')) : ses' = { ses with pending := some [] } ∧ srv' = srv := by
  unfold begin at h
  split at h
  · rename_i hc
    cases Server.check_ok hc
    cases h
    exact ⟨rfl, rfl⟩
  · cases h

theorem begin_plain : Plain begin where
  keeps ses srv := by
    unfold begin
    split
    · rename_i hc
      cases Server.check_ok hc
      exact ⟨rfl, rfl, rfl⟩
    · rename_i hc
      exact ⟨rfl, rfl, (Server.charged_of_check hc).counts⟩
  connects ses srv := by
    have hc := (srv.check_charged "START TRANSACTION").connects
    unfold begin
    split <;> simp_all
  failed {ses srv e ses' srv'} h := by
    unfold begin at h
    split at h
    · cases h
    · rename_i hc
      cases h
      exact ⟨rfl, Server.charged_of_check hc⟩

/-- A commit makes the statements of the open transaction visible in their order. -/
theorem commit_ok {ses ses' : Session} {srv srv' : Server} {u : Unit}
    (h : commit ses srv = (.ok u, ses', srv')) :
    ses' = { ses with pending := none } ∧
    srv' = { srv with
      committed := srv.committed ++ ses.pending.getD []
      commits := srv.commits + ses.pending.toList.length } := by
  unfold commit at h
  split at h
  · cases h
  · rename_i hc
    cases Server.check_ok hc
    obtain ⟨id, prepared, pending⟩ := ses
    cases pending <;> (cases h; simp)

theorem commit_plain : Plain commit where
  keeps ses srv := by
    unfold commit
    split
    · rename_i hc
      exact ⟨rfl, rfl, (Server.charged_of_check hc).counts⟩
    · rename_i hc
      cases Server.check_ok hc
      split <;> exact ⟨rfl, rfl, rfl⟩
  connects ses srv := by
    have hc := (srv.check_charged "COMMIT").connects
    unfold commit
    split
    · simp_all
    · split <;> simp_all
  failed {ses srv e ses' srv'} h := by
    unfold commit at h
    split at h
    · rename_i hc
      cases h
      exact ⟨rfl, Server.charged_of_check hc⟩
    · split at h <;> cases h

theorem rollback_eq (ses : Session) (srv : Server) :
    rollback ses srv = (.ok (), { ses with pending := none },
      { srv with rollbacks := srv.rollbacks + ses.pending.toList.length }) := by
  obtain ⟨id, prepared, pending⟩ := ses
  cases pending <;> rfl

theorem rollback_plain : Plain rollback where
  keeps ses srv := by
    rw [rollback_eq]
    exact ⟨rfl, rfl, rfl⟩
  connects ses srv := by
    rw [rollback_eq]
  failed h := by
    rw [rollback_eq] at h
    cases h

/-- The count that the script sets, or else the marks of the text. -/
def reportedCount (srv : Server) (id : Nat) (sql : String) : Nat :=
  (srv.counts.get? id).elim (countMarks sql) (·.2)

theorem prepare_ok {id n : Nat} {sql : String} {ses ses' : Session} {srv srv' : Server}
    (h : prepare id sql ses srv = (.ok n, ses', srv')) :
    n = reportedCount srv id sql ∧
    ses' = { ses with prepared := ses.prepared.insert (id, sql) } ∧ srv' = srv := by
  unfold prepare at h
  split at h
  · cases h
  · rename_i hc
    cases Server.check_ok hc
    cases h
    exact ⟨rfl, rfl, rfl⟩

theorem prepare_error {id : Nat} {sql : String} {ses ses' : Session} {srv srv' : Server}
    {e : NativeError} (h : prepare id sql ses srv = (.error e, ses', srv')) :
    ses' = ses ∧ Server.Charged srv srv' := by
  unfold prepare at h
  split at h
  · rename_i hc
    cases h
    exact ⟨rfl, Server.charged_of_check hc⟩
  · cases h

end Session
end QueryPool
