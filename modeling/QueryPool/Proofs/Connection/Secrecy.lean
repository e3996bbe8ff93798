import QueryPool.Proofs.Connection.Recovery
import QueryPool.Proofs.Login

namespace QueryPool

namespace Login

def withPassword (w : String) (l : Login) : Login := { l with password := w }

/-- Texts with equally many fields, which are the same but for the fourth. -/
structure DifferInPassword (s s' : String) (fs fs' : List (List Char)) : Prop where
  split : Splits s fs
  split' : Splits s' fs'
  count : fs.length = fs'.length
  same : ∀ i, i ≠ 3 → fs[i]? = fs'[i]?

theorem ofFields_password (h p u w w' d f : List Char) :
    ofFields h p u w' d f = (ofFields h p u w d f).map (withPassword (String.ofList w')) := by
  simp only [ofFields]
  split
  · rfl
  · split <;> rfl

/-- Either none of the two can be read, for the same reason, or both say the same of all but the
password. -/
theorem DifferInPassword.parse_cases {s s' : String} {fs fs' : List (List Char)}
    (h : DifferInPassword s s' fs fs') :
    (∃ p, parse s = .error p ∧ parse s' = .error p) ∨
      ∃ l w, parse s = .ok l ∧ parse s' = .ok (l.withPassword w) := by
  by_cases count : fs.length = 5 ∨ fs.length = 6
  · obtain ⟨host, p, u, w, d, f, rfl⟩ := count_iff.1 count
    obtain ⟨host', p', u', w', d', f', rfl⟩ := count_iff.1 (h.count ▸ count)
    have hhost := h.same 0 (by decide)
    have hp := h.same 1 (by decide)
    have hu := h.same 2 (by decide)
    have hd := h.same 4 (by decide)
    have hf := h.same 5 (by decide)
    simp only [List.getElem?_cons_zero, List.getElem?_cons_succ,
      Option.some.injEq] at hhost hp hu hd
    have flag : f = f' := by
      cases f <;> cases f' <;> simp_all
    subst hhost hp hu hd flag
    rw [parse_of_count h.split, parse_of_count h.split', ofFields_password host p u w w' d]
    cases ofFields host p u w d (f.getD []) with
    | error e => exact .inl ⟨e, rfl, rfl⟩
    | ok l => exact .inr ⟨l, String.ofList w', rfl, rfl⟩
  · have count' : ¬(fs'.length = 5 ∨ fs'.length = 6) := h.count ▸ count
    rw [parse_of_miscount h.split count, parse_of_miscount h.split' count', h.count]
    exact .inl ⟨_, rfl, rfl⟩

end Login

def Connection.withPassword (w : String) (c : Connection) : Connection :=
  { c with login := c.login.withPassword w }

namespace Link

variable {α : Type}

def withPassword (w : String) (l : Link) : Link := { l with conn := l.conn.withPassword w }

/-- Whatever the password, an operation answers the same and leaves the same. -/
def Blind (f : Link → α × Link) : Prop :=
  ∀ w l, f (l.withPassword w) = ((f l).1, (f l).2.withPassword w)

variable (w : String) (l : Link)

theorem withPassword_session : (l.withPassword w).conn.session = l.conn.session := rfl

theorem withPassword_registry : (l.withPassword w).conn.registry = l.conn.registry := rfl

theorem withPassword_prepared : (l.withPassword w).conn.prepared = l.conn.prepared := rfl

theorem withPassword_connect :
    (l.withPassword w).server.connect (l.withPassword w).conn.login =
      l.server.connect l.conn.login := rfl

/-- Without a session the error names the login, as `Login.text` shows it. -/
theorem prepareOne_blind (t : Template) : Blind (prepareOne t) := by
  intro w l
  have text : (l.withPassword w).conn.login.text = l.conn.login.text := rfl
  unfold prepareOne
  rw [withPassword_session, text]
  cases l.conn.session with
  | none => rfl
  | some ses =>
    have server : (l.withPassword w).server = l.server := rfl
    simp only [server]
    rcases Session.prepare t.id t.sql ses l.server with ⟨_ | n, ses', server'⟩
    · rfl
    · by_cases h : n = t.slots
      · simp only [if_pos h]
        rfl
      · simp only [if_neg h]
        rfl

theorem prepareAll_blind (ts : List Template) : Blind (prepareAll ts) := by
  intro w l
  induction ts generalizing l with
  | nil => rfl
  | cons t ts ih =>
    unfold prepareAll
    rw [prepareOne_blind t w l]
    rcases l.prepareOne t with ⟨_ | _, m⟩
    · rfl
    · exact ih m

theorem prepareStatements_blind : Blind prepareStatements :=
  fun w l => prepareAll_blind (l.conn.registry.forSide l.conn.side) w l

theorem prepareAgain_blind (ids : List Nat) : Blind (prepareAgain ids) := by
  intro w l
  induction ids generalizing l with
  | nil => rfl
  | cons id ids ih =>
    unfold prepareAgain
    rw [withPassword_registry]
    cases l.conn.registry.get? id with
    | none => rfl
    | some t =>
      simp only
      rw [prepareOne_blind t w l]
      rcases l.prepareOne t with ⟨_ | _, m⟩
      · rfl
      · exact ih m

theorem openSession_blind : Blind openSession := by
  intro w l
  unfold openSession
  rw [withPassword_connect, withPassword_prepared]
  rcases l.server.connect l.conn.login with ⟨_ | ses, server⟩
  · rfl
  · exact prepareAgain_blind l.conn.prepared.keys w
      { conn := { l.conn with session := some ses }, server }

theorem reopen_blind (n : Nat) (last : NativeError) : Blind (reopen n last) := by
  intro w l
  induction n generalizing last l with
  | zero => rfl
  | succ n ih =>
    unfold reopen
    rw [openSession_blind w l]
    rcases l.openSession with ⟨e | _, m⟩
    · exact ih e.asNative
        { m with conn := { m.conn.close with failedAttempts := m.conn.failedAttempts + 1 } }
    · rfl

theorem reconnect_blind (cause : NativeError) : Blind (reconnect cause) := by
  intro w l
  have h : reopen (l.withPassword w).conn.policy.attempts cause (l.withPassword w).disconnect = _ :=
    reopen_blind l.conn.policy.attempts cause w l.disconnect
  unfold disconnect at h
  unfold reconnect
  rcases hm : reopen l.conn.policy.attempts cause
    { l with conn := { l.conn.close with reconnecting := true } } with ⟨_ | _, m⟩
  all_goals
    rw [hm] at h
    simp only [h, hm]
    rfl

variable (call : Session.Call α)

theorem submit_blind : Blind (submit call) := by
  intro w l
  unfold submit
  rw [withPassword_session]
  cases l.conn.session <;> rfl

theorem persist_blind (onLoss : OnLoss) (left : Nat) : Blind (persist onLoss call left) := by
  intro w l
  induction left generalizing l with
  | zero =>
    unfold persist
    rw [submit_blind call w l]
    rcases l.submit call with ⟨e | _, m⟩
    · simp only
      cases e.kind <;> rfl
    · rfl
  | succ left ih =>
    unfold persist
    rw [submit_blind call w l]
    rcases l.submit call with ⟨e | _, m⟩
    · simp only
      cases e.kind with
      | connectionLost =>
        simp only
        rw [reconnect_blind e w m]
        rcases m.reconnect e with ⟨_ | _, m'⟩
        · rfl
        · cases onLoss with
          | retry => exact ih m'
          | report => rfl
      | _ => rfl
    · rfl

theorem call_blind (onLoss : OnLoss) : Blind (Link.call onLoss call) :=
  fun w l => persist_blind call onLoss l.conn.policy.attempts w l

theorem cursor_blind {f : Link → Outcome Table} (h : Blind f) : Blind fun l => cursor (f l) := by
  intro w l
  simp only [h w l, cursor]

theorem success_blind {f : Link → Outcome α} (h : Blind f) : Blind fun l => success (f l) := by
  intro w l
  simp only [h w l, success]

theorem withBound_blind (onLoss : OnLoss) (s : Statement)
    (f : Nat → List Value → Session.Call α) : Blind (withBound onLoss s f) := by
  intro w l
  unfold withBound
  cases s.values with
  | error e => rfl
  | ok vs =>
    have prepared : (l.withPassword w).conn.isPrepared s.id = l.conn.isPrepared s.id := rfl
    simp only [prepared]
    split
    · exact call_blind _ onLoss w l
    · rfl

theorem runElement_blind (e : Element) : Blind (runElement e) := by
  intro w l
  cases e with
  | raw sql => exact call_blind _ .report w l
  | bound s => exact withBound_blind .report s _ w l

theorem runElements_blind (es : List Element) : Blind (runElements es) := by
  intro w l
  induction es generalizing l with
  | nil => rfl
  | cons e es ih =>
    unfold runElements
    rw [runElement_blind e w l]
    rcases l.runElement e with ⟨_ | _, m⟩
    · rfl
    · exact ih m

theorem rollbackAfter_withPassword (e : PoolError) :
    (l.withPassword w).rollbackAfter e = (l.rollbackAfter e).withPassword w := by
  unfold rollbackAfter
  split
  · rfl
  · rw [rollback, submit_blind Session.rollback w l]
    rfl

theorem commitOpen_blind : Blind commitOpen := by
  intro w l
  unfold commitOpen
  rw [call_blind Session.commit .report w l]
  rcases l.call .report Session.commit with ⟨e | _, m⟩
  · simp only [rollbackAfter_withPassword w m e]
  · rfl

theorem runTransaction_blind (t : Transaction) : Blind (runTransaction t) := by
  intro w l
  unfold runTransaction
  split
  · rfl
  · rw [call_blind Session.begin .retry w l]
    rcases l.call .retry Session.begin with ⟨_ | _, m⟩
    · rfl
    · simp only
      rw [runElements_blind t.elements w m]
      rcases m.runElements t.elements with ⟨e | _, m'⟩
      · simp only [rollbackAfter_withPassword w m' e]
      · exact commitOpen_blind w m'

theorem restarting_blind (t : Transaction) (left : Nat) : Blind (restarting t left) := by
  intro w l
  induction left generalizing l with
  | zero =>
    unfold restarting
    rw [runTransaction_blind t w l]
    rcases l.runTransaction t with ⟨e | _, m⟩
    · cases e with
      | database e =>
        simp only
        split <;> rfl
      | _ => rfl
    · rfl
  | succ left ih =>
    unfold restarting
    rw [runTransaction_blind t w l]
    rcases l.runTransaction t with ⟨e | _, m⟩
    · cases e with
      | database e =>
        simp only
        split
        · exact ih m
        · rfl
      | _ => rfl
    · rfl

theorem attempt_blind (t : Transaction) : Blind (attempt t) :=
  fun w l => restarting_blind t l.conn.policy.attempts w l

theorem retryDeadlocks_blind (t : Transaction) (limit : Duration) (n : Nat) :
    Blind (retryDeadlocks t limit n) := by
  intro w l
  induction n generalizing l with
  | zero => rfl
  | succ n ih =>
    unfold retryDeadlocks
    rw [attempt_blind t w l]
    rcases l.attempt t with ⟨e | _, m⟩
    · simp only
      split
      · exact ih m
      · rfl
    · rfl

theorem commit_blind (t : Transaction) (b : Budget) : Blind fun l => (l.commit t b).1 := by
  intro w l
  simp only [commit]
  rw [attempt_blind t w l]
  rcases l.attempt t with ⟨e | _, m⟩
  · simp only
    split
    · exact retryDeadlocks_blind t b.limit b.retries w m
    · rfl
  · rfl

/-- One lemma for each kind of request. -/
theorem perform_blind (q : Request) : Blind fun l => l.perform q := by
  intro w l
  cases q with
  | openSession => exact openSession_blind w l
  | close => rfl
  | prepareStatements => exact prepareStatements_blind w l
  | ping => exact call_blind _ .retry w l
  | execute sql => exact success_blind (call_blind _ .retry) w l
  | query sql => exact success_blind (cursor_blind (call_blind _ .retry)) w l
  | executeBound s => exact success_blind (withBound_blind .retry s _) w l
  | queryBound s => exact success_blind (cursor_blind (withBound_blind .retry s _)) w l
  | transaction t => exact runTransaction_blind t w l
  | commit t b => exact commit_blind t b w l

/-- The answers to the requests of a run, in turn. -/
def answers : List Step → Link → List (Except PoolError Unit)
  | [], _ => []
  | .request q :: steps, l => (l.perform q).1 :: answers steps (l.step (.request q))
  | .direction d :: steps, l => answers steps (l.step (.direction d))

theorem step_withPassword (s : Step) :
    (l.withPassword w).step s = (l.step s).withPassword w := by
  cases s with
  | request q => exact congrArg Prod.snd (perform_blind q w l)
  | direction d => rfl

theorem run_withPassword (steps : List Step) :
    (l.withPassword w).run steps = (l.run steps).withPassword w := by
  induction steps generalizing l with
  | nil => rfl
  | cons s steps ih =>
    change ((l.withPassword w).step s).run steps = ((l.step s).run steps).withPassword w
    rw [step_withPassword, ih]

theorem answers_withPassword (steps : List Step) :
    (l.withPassword w).answers steps = l.answers steps := by
  induction steps generalizing l with
  | nil => rfl
  | cons s steps ih =>
    cases s with
    | request q =>
      have blind : (l.withPassword w).perform q = _ := perform_blind q w l
      simp only [answers]
      rw [step_withPassword, ih, blind]
    | direction d =>
      simp only [answers]
      rw [step_withPassword, ih]

/-- Of two texts that differ in the password alone, either none can be read, for the same reason, or
both are, as logins that differ in the password alone and show themselves alike. Connections that
are made with these logins answer every request alike, errors included, whatever the calls and
whatever the server is told to do. -/
theorem password_unseen {s s' : String} {fs fs' : List (List Char)}
    (differ : Login.DifferInPassword s s' fs fs') :
    (∃ p, Login.parse s = .error p ∧ Login.parse s' = .error p) ∨
      ∃ l l', Login.parse s = .ok l ∧ Login.parse s' = .ok l' ∧
        l' = { l with password := l'.password } ∧
        l'.text = l.text ∧ l'.diagnostic = l.diagnostic ∧
        ∀ (side : Side) (registry : Registry) (policy : ReconnectPolicy) (server : Server)
          (steps : List Step),
          let c := made ⟨l, side, registry, policy⟩ server
          let c' := made ⟨l', side, registry, policy⟩ server
          c'.answers steps = c.answers steps ∧
            (c'.run steps).server = (c.run steps).server ∧
            (c'.run steps).conn.diagnostic = (c.run steps).conn.diagnostic := by
  rcases differ.parse_cases with unread | ⟨l, w, read, read'⟩
  · exact .inl unread
  · refine .inr ⟨l, l.withPassword w, read, read', rfl, rfl, rfl, ?_⟩
    intro side registry policy server steps c c'
    have other : c' = c.withPassword w := rfl
    rw [other, answers_withPassword, run_withPassword]
    exact ⟨rfl, rfl, rfl⟩

def shortLogin : String := "db;3306;trinity;trinity;world"

def longLogin : String := "db;3306;trinity;  a longer password ;world"

/-- A statement is prepared without a session, which then cannot be had, as a call finds again. -/
def shutOut : List Step :=
  [.request .prepareStatements, .direction (.refuseConnects 4), .request .openSession,
    .request (.query "SELECT 1")]

theorem password_unseen_shutOut :
    let fields (w : String) := ["db", "3306", "trinity", w, "world"].map String.toList
    let made (l : Login) :=
      made ⟨l, .sync, ({} : Registry).insert boundSelect.template, ⟨2, .zero⟩⟩ {}
    let opened (s : String) := (Login.parse s).map fun l => (made l).answers shutOut
    let refused : NativeError := ⟨2003, "can't connect to server on 'db'"⟩
    Login.DifferInPassword shortLogin longLogin (fields "trinity")
        (fields "  a longer password ") ∧
      opened shortLogin = .ok [.error (.connection (.closed 1 "trinity@db:3306/world")),
        .error (.database refused), .error (.fatal (.reconnectExhausted 2 refused))] ∧
      opened longLogin = opened shortLogin := by
  intro fields made opened refused
  have differ : Login.DifferInPassword shortLogin longLogin (fields "trinity")
      (fields "  a longer password ") :=
    { split := Login.splits_iff.2 (by decide +kernel)
      split' := Login.splits_iff.2 (by decide +kernel)
      count := rfl
      same := by
        intro i hi
        match i with
        | 0 | 1 | 2 | 4 | _ + 5 => rfl
        | 3 => exact absurd rfl hi }
  have short : opened shortLogin = .ok [.error (.connection (.closed 1 "trinity@db:3306/world")),
      .error (.database refused), .error (.fatal (.reconnectExhausted 2 refused))] := by rfl
  refine ⟨differ, short, ?_⟩
  rcases password_unseen differ with ⟨p, unread, -⟩ | ⟨l, l', read, read', -, -, -, alike⟩
  · have read : Login.parse shortLogin =
        .ok ⟨"db", "3306", "trinity", "trinity", "world", false⟩ := by rfl
    rw [read] at unread
    cases unread
  · simp only [opened, read, read']
    exact congrArg Except.ok (alike .sync _ ⟨2, .zero⟩ {} shutOut).1

end Link
end QueryPool
