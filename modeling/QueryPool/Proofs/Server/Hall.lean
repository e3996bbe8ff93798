import QueryPool.Proofs.Connection.Run
import QueryPool.Proofs.Server.Deeds

namespace QueryPool

namespace Server

/-- Nothing ran or became visible, and no transaction was ended. -/
structure Untold (srv srv' : Server) : Prop where
  executed : srv'.executed = srv.executed
  committed : srv'.committed = srv.committed
  commits : srv'.commits = srv.commits
  rollbacks : srv'.rollbacks = srv.rollbacks

/-- The server's books tell of an act of a session with these statements in its transaction. -/
structure Records (a : Act) (pending : Option (List String)) (srv srv' : Server) : Prop where
  executed : srv'.executed = srv.executed ++ a.text?.toList
  committed : srv'.committed = srv.committed ++ a.shows pending
  commits : srv'.commits = srv.commits + if a = .committed ∧ pending.isSome = true then 1 else 0
  rollbacks : srv'.rollbacks =
    srv.rollbacks + if a = .rolledBack ∧ pending.isSome = true then 1 else 0

variable {srv srv' : Server}

theorem Charged.untold (h : Charged srv srv') : Untold srv srv' := by
  obtain ⟨rules, rfl⟩ := h
  exact ⟨rfl, rfl, rfl, rfl⟩

theorem follow_untold (srv : Server) (d : Direction) : Untold srv (srv.follow d) := by
  cases d <;> exact ⟨rfl, rfl, rfl, rfl⟩

theorem records_dropped (srv : Server) (pending : Option (List String)) :
    Records .dropped pending srv srv := by
  constructor <;> simp [Act.text?, Act.shows]

end Server

namespace Session

variable {α : Type} {f : Call α} {text : Session → Except NativeError String}
  {ses ses' : Session} {srv srv' : Server}

/-- A call, apart from what it gives. -/
def success (f : Call α) : Call Unit := fun ses srv =>
  ((f ses srv).1.map fun _ => (), (f ses srv).2)

theorem success_ok {u : Unit} (h : success f ses srv = (.ok u, ses', srv')) :
    ∃ a, f ses srv = (.ok a, ses', srv') := by
  unfold success at h
  rcases hf : f ses srv with ⟨e | a, m⟩
  · rw [hf] at h
    cases h
  · rw [hf] at h
    cases h
    exact ⟨a, rfl⟩

theorem success_error {e : NativeError} (h : success f ses srv = (.error e, ses', srv')) :
    f ses srv = (.error e, ses', srv') := by
  unfold success at h
  rcases hf : f ses srv with ⟨e | a, m⟩
  · rw [hf] at h
    cases h
    rfl
  · rw [hf] at h
    cases h

end Session

/-- What a session is asked to do. -/
inductive Command where
  | execute (sql : String)
  | query (sql : String)
  | prepare (id : Nat) (sql : String)
  | executePrepared (id : Nat) (values : List Value)
  | queryPrepared (id : Nat) (values : List Value)
  | ping
  | begin
  | commit
  | rollback

namespace Command

variable {c : Command} {ses ses' : Session} {srv srv' : Server}

def call : Command → Session.Call Unit
  | execute sql => Session.success (Session.execute sql)
  | query sql => Session.success (Session.query sql)
  | prepare id sql => Session.success (Session.prepare id sql)
  | executePrepared id values => Session.success (Session.executePrepared id values)
  | queryPrepared id values => Session.success (Session.queryPrepared id values)
  | ping => Session.ping
  | begin => Session.begin
  | commit => Session.commit
  | rollback => Session.rollback

/-- What the session has done when the command went well; preparing and pinging leave no trace. -/
def act? (ses : Session) : Command → Option Act
  | execute sql | query sql => some (.ran sql)
  | executePrepared id values | queryPrepared id values => (ses.bound id values).toOption.map .ran
  | begin => some .began
  | commit => some .committed
  | rollback => some .rolledBack
  | prepare .. | ping => none

/-- What a command comes to that went well. -/
def Done (c : Command) (ses : Session) (srv : Server) (ses' : Session) (srv' : Server) : Prop :=
  match c.act? ses with
  | some a => ses'.pending = a.pending ses.pending ∧ Server.Records a ses.pending srv srv'
  | none => ses'.pending = ses.pending ∧ Server.Untold srv srv'

theorem records_ran {text : String} (h : Session.run text ses srv = (.ok (), ses', srv')) :
    ses'.pending = (Act.ran text).pending ses.pending ∧
      Server.Records (.ran text) ses.pending srv srv' := by
  obtain ⟨rfl, rfl⟩ := Session.run_ok h
  refine ⟨rfl, rfl, ?_, by simp, by simp⟩
  cases ses.pending <;> simp [Act.shows]

theorem call_ok {u : Unit} (h : c.call ses srv = (.ok u, ses', srv')) :
    c.Done ses srv ses' srv' := by
  cases c with
  | execute sql =>
    obtain ⟨n, h⟩ := Session.success_ok h
    obtain ⟨t, ht, ran⟩ := (Session.execute_runs sql).ok h
    cases ht
    exact records_ran ran
  | query sql =>
    obtain ⟨n, h⟩ := Session.success_ok h
    obtain ⟨t, ht, ran⟩ := (Session.query_runs sql).ok h
    cases ht
    exact records_ran ran
  | prepare id sql =>
    obtain ⟨n, h⟩ := Session.success_ok h
    obtain ⟨_, rfl, rfl⟩ := Session.prepare_ok h
    exact ⟨rfl, rfl, rfl, rfl, rfl⟩
  | executePrepared id values =>
    obtain ⟨n, h⟩ := Session.success_ok h
    obtain ⟨t, ht, ran⟩ := (Session.executePrepared_runs id values).ok h
    simp only [Done, act?, ht]
    exact records_ran ran
  | queryPrepared id values =>
    obtain ⟨n, h⟩ := Session.success_ok h
    obtain ⟨t, ht, ran⟩ := (Session.queryPrepared_runs id values).ok h
    simp only [Done, act?, ht]
    exact records_ran ran
  | ping =>
    obtain ⟨rfl, rfl⟩ := Session.ping_ok h
    exact ⟨rfl, rfl, rfl, rfl, rfl⟩
  | begin =>
    obtain ⟨rfl, rfl⟩ := Session.begin_ok h
    exact ⟨rfl, by constructor <;> simp [Act.text?, Act.shows]⟩
  | commit =>
    obtain ⟨rfl, rfl⟩ := Session.commit_ok h
    refine ⟨rfl, ?_⟩
    cases ses.pending <;> constructor <;> simp [Act.text?, Act.shows]
  | rollback =>
    have h := (Session.rollback_eq ses srv).symm.trans h
    cases h
    refine ⟨rfl, ?_⟩
    cases ses.pending <;> constructor <;> simp [Act.text?, Act.shows]

/-- A command that fails leaves the session as it was, its transaction with it. -/
theorem call_error {e : NativeError} (h : c.call ses srv = (.error e, ses', srv')) :
    ses' = ses ∧ Server.Charged srv srv' := by
  cases c with
  | execute sql => exact (Session.execute_runs sql).plain.failed (Session.success_error h)
  | query sql => exact (Session.query_runs sql).plain.failed (Session.success_error h)
  | prepare id sql => exact Session.prepare_error (Session.success_error h)
  | executePrepared id values =>
    exact (Session.executePrepared_runs id values).plain.failed (Session.success_error h)
  | queryPrepared id values =>
    exact (Session.queryPrepared_runs id values).plain.failed (Session.success_error h)
  | ping => exact Session.ping_plain.failed h
  | begin => exact Session.begin_plain.failed h
  | commit => exact Session.commit_plain.failed h
  | rollback => exact Session.rollback_plain.failed h

end Command

/-- A server and the sessions it gave, in their order; a session that was dropped leaves its place
empty. -/
structure Hall where
  server : Server
  sessions : List (Option Session) := []

namespace Hall

inductive Move where
  | connect (login : Login)
  | submit (session : Nat) (command : Command)
  | drop (session : Nat)
  | direct (d : Direction)

def session? (h : Hall) (i : Nat) : Option Session := h.sessions[i]?.join

def step (h : Hall) : Move → Hall
  | .connect login =>
    match h.server.connect login with
    | (.ok ses, server) => ⟨server, h.sessions ++ [some ses]⟩
    | (.error _, server) => { h with server }
  | .submit i c =>
    match h.session? i with
    | none => h
    | some ses =>
      let (_, ses, server) := c.call ses h.server
      ⟨server, h.sessions.set i (some ses)⟩
  | .drop i =>
    match h.session? i with
    | none => h
    | some _ => { h with sessions := h.sessions.set i none }
  | .direct d => { h with server := h.server.follow d }

def run (h : Hall) (moves : List Move) : Hall := moves.foldl step h

/-- How a session that is there answers a command. -/
def answer? (h : Hall) (i : Nat) (c : Command) : Option (Except NativeError Unit) :=
  (h.session? i).map fun ses => (c.call ses h.server).1

/-- What a session does with a move; a command that fails is no deed. -/
def deed? (h : Hall) : Move → Option Deed
  | .submit i c =>
    match h.session? i with
    | none => none
    | some ses =>
      match (c.call ses h.server).1 with
      | .ok () => (c.act? ses).map (⟨i, ·⟩)
      | .error _ => none
  | .drop i => (h.session? i).map fun _ => ⟨i, .dropped⟩
  | .connect _ | .direct _ => none

def log (h : Hall) : List Move → List Deed
  | [] => []
  | m :: moves => (h.deed? m).toList ++ (h.step m).log moves

theorem run_concat (h : Hall) (moves : List Move) (m : Move) :
    h.run (moves ++ [m]) = (h.run moves).step m := by simp [run]

variable {h h' : Hall} {s : Server} {log : List Deed} {i : Nat} {ses : Session} {a : Act}

theorem getElem?_of_session? (here : h.session? i = some ses) : h.sessions[i]? = some (some ses) :=
  Option.join_eq_some_iff.mp here

theorem lt_of_session? (here : h.session? i = some ses) : i < h.sessions.length :=
  (List.getElem?_eq_some_iff.mp (getElem?_of_session? here)).1

theorem session?_set_same (server : Server) (x : Option Session) (here : h.session? i = some ses) :
    session? ⟨server, h.sessions.set i x⟩ i = x := by
  rw [session?, List.getElem?_set_self (lt_of_session? here), Option.join_some]

theorem session?_set_ne {j : Nat} (server : Server) (x : Option Session) (other : j ≠ i) :
    session? ⟨server, h.sessions.set i x⟩ j = h.session? j := by
  rw [session?, List.getElem?_set_ne (Ne.symm other), session?]

/-- The server that was `s` and its sessions are as the log tells. -/
structure Told (s : Server) (log : List Deed) (h : Hall) : Prop where
  executed : h.server.executed = s.executed ++ log.filterMap Deed.text?
  committed : h.server.committed = s.committed ++ Deed.textsAt log (Deed.blocks log).flatten
  commits : h.server.commits = s.commits + Deed.endings .committed log
  rollbacks : h.server.rollbacks = s.rollbacks + Deed.endings .rolledBack log
  pending : ∀ i ses, h.session? i = some ses → ses.pending = Deed.pendingOf log i
  known : ∀ d ∈ log, d.session < h.sessions.length

/-- What is no deed keeps to the log. -/
theorem Told.still (ht : Told s log h) (untold : Server.Untold h.server h'.server)
    (pending : ∀ i ses, h'.session? i = some ses → ses.pending = Deed.pendingOf log i)
    (more : h.sessions.length ≤ h'.sessions.length) : Told s log h' where
  executed := untold.executed.trans ht.executed
  committed := untold.committed.trans ht.committed
  commits := untold.commits.trans ht.commits
  rollbacks := untold.rollbacks.trans ht.rollbacks
  pending := pending
  known d hd := Nat.lt_of_lt_of_le (ht.known d hd) more

/-- A deed of a session is told behind those before it. -/
theorem Told.deed (ht : Told s log h) (here : h.session? i = some ses)
    (records : Server.Records a ses.pending h.server h'.server)
    (mine : ∀ ses', h'.session? i = some ses' → ses'.pending = a.pending ses.pending)
    (others : ∀ j, j ≠ i → h'.session? j = h.session? j)
    (same : h'.sessions.length = h.sessions.length) : Told s (log ++ [⟨i, a⟩]) h' := by
  rw [ht.pending i ses here] at records mine
  have inside : (Deed.pendingOf log i).isSome = Deed.opened log i := Deed.isSome_pendingOf log i
  refine ⟨?_, ?_, ?_, ?_, ?_, ?_⟩
  · rw [records.executed, ht.executed, List.filterMap_append, List.append_assoc]
    rfl
  · rw [records.committed, ht.committed, Deed.textsAt_blocks_concat, List.append_assoc]
  · rw [records.commits, ht.commits, Deed.endings_concat, inside, Nat.add_assoc]
  · rw [records.rollbacks, ht.rollbacks, Deed.endings_concat, inside, Nat.add_assoc]
  · intro j ses' there
    rw [Deed.pendingOf_concat]
    split
    · rename_i same
      subst same
      exact mine ses' there
    · rename_i other
      rw [others j (Ne.symm other)] at there
      exact ht.pending j ses' there
  · intro d hd
    rw [same]
    rcases List.mem_append.mp hd with hd | hd
    · exact ht.known d hd
    · rw [List.mem_singleton.mp hd]
      exact lt_of_session? here

theorem pendingOf_unknown (ht : Told s log h) : Deed.pendingOf log h.sessions.length = none := by
  have quiet : log.any (Deed.bounds h.sessions.length) = false := by
    apply List.any_eq_false.mpr
    intro d hd
    have other : d.session ≠ h.sessions.length := Nat.ne_of_lt (ht.known d hd)
    simp [Deed.bounds, other]
  have outside := Deed.opened_append [] log quiet
  rw [List.nil_append] at outside
  rw [Deed.pendingOf, outside]
  rfl

theorem Told.connect (ht : Told s log h) (login : Login) :
    Told s log (h.step (.connect login)) := by
  rcases h.server.connect_cases login with ⟨_, hc⟩ | ⟨n, _, hc⟩
  · simp only [step, hc]
    refine ht.still ?_ ?_ ?_
    · exact ⟨rfl, rfl, rfl, rfl⟩
    · intro i ses there
      by_cases hi : i < h.sessions.length
      · rw [session?, List.getElem?_append_left hi] at there
        exact ht.pending i ses there
      · have last := lt_of_session? there
        rw [List.length_append, List.length_singleton] at last
        have new : i = h.sessions.length := by omega
        subst new
        rw [session?, List.getElem?_concat_length, Option.join_some] at there
        cases there
        exact (pendingOf_unknown ht).symm
    · simp
  · simp only [step, hc]
    refine ht.still ?_ ht.pending (Nat.le_refl _)
    exact ⟨rfl, rfl, rfl, rfl⟩

/-- A session that is put back with its transaction as it was changes nothing. -/
theorem Told.put (ht : Told s log h) (here : h.session? i = some ses) {ses' : Session}
    {server : Server} (untold : Server.Untold h.server server)
    (same : ses'.pending = ses.pending) : Told s log ⟨server, h.sessions.set i (some ses')⟩ := by
  refine ht.still untold ?_ (by simp)
  intro j there hj
  by_cases mine : j = i
  · subst mine
    rw [session?_set_same server (some ses') here] at hj
    cases hj
    rw [same]
    exact ht.pending j ses here
  · rw [session?_set_ne server (some ses') mine] at hj
    exact ht.pending j there hj

theorem Told.putDeed (ht : Told s log h) (here : h.session? i = some ses) {x : Option Session}
    {server : Server} (records : Server.Records a ses.pending h.server server)
    (pending : ∀ ses', x = some ses' → ses'.pending = a.pending ses.pending) :
    Told s (log ++ [⟨i, a⟩]) ⟨server, h.sessions.set i x⟩ := by
  refine ht.deed here records ?_ ?_ (by simp)
  · intro ses' hi
    rw [session?_set_same server x here] at hi
    exact pending ses' hi
  · intro j other
    exact session?_set_ne server x other

theorem Told.submit (ht : Told s log h) (i : Nat) (c : Command) :
    Told s (log ++ (h.deed? (.submit i c)).toList) (h.step (.submit i c)) := by
  cases here : h.session? i with
  | none =>
    simp only [deed?, step, here, Option.toList_none, List.append_nil]
    exact ht
  | some ses =>
    rcases hc : c.call ses h.server with ⟨e | u, ses', server⟩
    · obtain ⟨rfl, charged⟩ := Command.call_error hc
      simp only [deed?, step, here, hc, Option.toList_none, List.append_nil]
      exact ht.put here charged.untold rfl
    · have done := Command.call_ok hc
      simp only [deed?, step, here, hc]
      unfold Command.Done at done
      cases ha : c.act? ses with
      | none =>
        rw [ha] at done
        simp only [Option.map_none, Option.toList_none, List.append_nil]
        exact ht.put here done.2 done.1
      | some a =>
        rw [ha] at done
        refine ht.putDeed here done.2 ?_
        intro ses'' same
        cases same
        exact done.1

theorem Told.drop (ht : Told s log h) (i : Nat) :
    Told s (log ++ (h.deed? (.drop i)).toList) (h.step (.drop i)) := by
  cases here : h.session? i with
  | none =>
    simp only [deed?, step, here, Option.map_none, Option.toList_none, List.append_nil]
    exact ht
  | some ses =>
    simp only [deed?, step, here]
    exact ht.putDeed here (Server.records_dropped h.server ses.pending) nofun

theorem Told.step (ht : Told s log h) (m : Move) :
    Told s (log ++ (h.deed? m).toList) (h.step m) := by
  cases m with
  | connect login =>
    rw [deed?, Option.toList_none, List.append_nil]
    exact ht.connect login
  | submit i c => exact ht.submit i c
  | drop i => exact ht.drop i
  | direct d =>
    rw [deed?, Option.toList_none, List.append_nil]
    exact ht.still (h.server.follow_untold d) ht.pending (Nat.le_refl _)

/-- The hall of a server that no session has reached yet. -/
def start (server : Server) : Hall := { server }

end Hall
end QueryPool
