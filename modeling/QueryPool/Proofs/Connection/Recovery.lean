import QueryPool.Proofs.Connection.Coherence
import QueryPool.Proofs.Connection.Table
import QueryPool.Proofs.Server.Calm

namespace QueryPool.Link

variable {α : Type} {f : Session.Call α} {l m l' : Link} {id n k : Nat}

/-- Every statement of the table can be prepared again: the registry has it, and if the script sets
no count, the server counts the values that the template takes. -/
def Sound (l : Link) : Prop :=
  ∀ id, l.conn.isPrepared id = true → ∃ t, l.conn.registry.get? id = some t ∧
    (l.server.counts.get? id = none → Session.countMarks t.sql = t.slots)

theorem prepareOne_sound {t : Template} (ht : l.conn.registry.get? t.id = some t) (h : l.Sound) :
    (l.prepareOne t).2.Sound := by
  rcases l.prepareOne_cases t with ⟨_, hp⟩ | ⟨ses, _, ⟨e, server, hc, hp⟩ | ⟨n, hn, ⟨hslots, hp⟩ | ⟨_, hp⟩⟩⟩
  · rw [hp]
    exact h
  · rw [hp]
    intro id hid
    obtain ⟨u, hu, marks⟩ := h id hid
    exact ⟨u, hu, fun hcount => marks (by rwa [← hc.counts])⟩
  · rw [hp]
    intro id hid
    obtain ⟨p, hget⟩ := Keyed.contains_iff.1 hid
    simp only at hget
    rw [Keyed.get?_insert] at hget
    split at hget
    · rename_i hid
      simp only at hid
      subst hid
      refine ⟨t, ht, fun hcount => ?_⟩
      -- without a scripted count the server counted the marks
      rw [Session.reportedCount, show l.server.counts.get? t.id = none from hcount] at hn
      exact hn.symm.trans hslots
    · exact h id (Keyed.contains_iff.2 ⟨p, hget⟩)
  · rw [hp]
    exact h

theorem Prepares.sound (h : Prepares l l') (hl : l.Sound) : l'.Sound :=
  h.induct (fun _ _ ht hm => prepareOne_sound ht hm) hl

theorem openSession_sound (h : l.Sound) : l.openSession.2.Sound := by
  rcases l.openSession_cases with ⟨e, n, _, ho⟩ | ⟨_, ho⟩
  · rw [ho]
    exact h
  · rw [ho]
    exact (prepareAgain_prepares l.conn.prepared.keys l.renewed).sound h

theorem steady_sound : Steady Sound where
  submits hf h hl := by
    intro id hid
    rw [h.conn] at hid ⊢
    rw [h.counts hf]
    exact hl id hid
  reconnects h hl := h.keeps (fun _ _ _ _ _ hl => hl) (fun _ => openSession_sound) hl
  givesUp h hl := h.keeps (fun _ _ _ _ _ hl => hl) (fun _ => openSession_sound) hl
  prepares h hl := h.sound hl
  close hl := hl

theorem Reconnects.settled {errs : List PoolError} (h : Reconnects n l errs l') :
    l'.conn.reconnecting = false := by
  obtain ⟨m, m', _, _, _, rfl⟩ := h
  rfl

theorem GivesUp.settled {errs : List PoolError} (h : GivesUp n l errs l') :
    l'.conn.reconnecting = false := by
  obtain ⟨m, _, _, rfl⟩ := h
  rfl

/-- Only a call that is under way reconnects. -/
theorem steady_settled : Steady fun l => l.conn.reconnecting = false where
  submits _ h hl := by
    rw [h.conn]
    exact hl
  reconnects h _ := h.settled
  givesUp h _ := h.settled
  prepares h hl := h.kept.reconnecting.trans hl
  close hl := hl

/-- One clean reopen makes the connection usable, whatever has become of its session. -/
structure Mendable (l : Link) : Prop where
  coherent : l.Coherent
  sound : l.Sound
  settled : l.conn.reconnecting = false
  tries : 0 < l.conn.policy.attempts
  uncounted : ∀ id, l.server.counts.get? id = none

theorem enduring_mendable : Enduring Mendable where
  submits hf h hl :=
    ⟨steady_coherent.submits hf h hl.coherent, steady_sound.submits hf h hl.sound,
      steady_settled.submits hf h hl.settled, policy_eq h.setup ▸ hl.tries,
      h.counts hf ▸ hl.uncounted⟩
  reconnects h hl :=
    ⟨h.coherent, steady_sound.reconnects h hl.sound, h.settled, policy_eq h.reached.1 ▸ hl.tries,
      h.reached.2.2.2 ▸ hl.uncounted⟩
  givesUp h hl :=
    ⟨coherent_of_closed h.reached.1, steady_sound.givesUp h hl.sound, h.settled,
      policy_eq h.reached.2.1 ▸ hl.tries, h.reached.2.2.2.2 ▸ hl.uncounted⟩

/-- On a calm server a statement that the server counts as the template does is prepared. -/
theorem prepareOne_calm {t : Template} (opened : l.conn.isOpen = true) (calm : l.server.Calm)
    (uncounted : l.server.counts.get? t.id = none) (marks : Session.countMarks t.sql = t.slots) :
    ∃ m, l.prepareOne t = (.ok (), m) ∧ m.conn.isOpen = true ∧ m.server = l.server := by
  obtain ⟨ses, hs⟩ := Option.isSome_iff_exists.1 opened
  have hp : Session.prepare t.id t.sql ses l.server = (.ok t.slots,
      { ses with prepared := ses.prepared.insert (t.id, t.sql) }, l.server) := by
    simp only [Session.prepare, calm.check, uncounted, Option.elim_none, marks]
  simp only [prepareOne, hs, hp, if_true]
  exact ⟨_, rfl, rfl, rfl⟩

theorem prepareAgain_calm {ids : List Nat} (opened : l.conn.isOpen = true) (calm : l.server.Calm)
    (uncounted : ∀ id, l.server.counts.get? id = none)
    (known : ∀ id ∈ ids, ∃ t, l.conn.registry.get? id = some t ∧
      Session.countMarks t.sql = t.slots) :
    ∃ m, l.prepareAgain ids = (.ok (), m) ∧ m.conn.isOpen = true ∧ m.server = l.server := by
  induction ids generalizing l with
  | nil => exact ⟨l, rfl, opened, rfl⟩
  | cons id ids ih =>
    obtain ⟨t, ht, marks⟩ := known id (by simp)
    obtain ⟨m, hm, openedNow, same⟩ := prepareOne_calm opened calm (uncounted t.id) marks
    have kept := l.prepareOne_kept t
    rw [hm] at kept
    have registry := registry_eq kept.setup
    obtain ⟨m', hm', openedThen, same'⟩ := ih openedNow (by rwa [same]) (by rwa [same])
      fun id hid => by
        rw [registry]
        exact known id (by simp [hid])
    refine ⟨m', ?_, openedThen, same'.trans same⟩
    simp only [prepareAgain, ht, hm, hm']

theorem openSession_calm (hl : l.Sound) (calm : l.server.Calm)
    (uncounted : ∀ id, l.server.counts.get? id = none) :
    ∃ m, l.openSession = (.ok (), m) ∧ m.conn.isOpen = true ∧ m.server.Calm ∧
      m.server.connects = l.server.connects + 1 := by
  rcases l.openSession_cases with ⟨e, n, refused, _⟩ | ⟨_, ho⟩
  · rw [calm.unrefused] at refused
    cases refused
  · have known : ∀ id ∈ l.conn.prepared.keys, ∃ t, l.conn.registry.get? id = some t ∧
        Session.countMarks t.sql = t.slots := by
      intro id hid
      obtain ⟨t, ht, marks⟩ := hl id (Keyed.mem_keys.1 hid)
      exact ⟨t, ht, marks (uncounted id)⟩
    obtain ⟨m, hm, opened, same⟩ := prepareAgain_calm (l := l.renewed) rfl
      ⟨calm.quiet, calm.unrefused⟩ uncounted known
    refine ⟨m, ho.trans hm, opened, ?_, ?_⟩
    · rw [same]
      exact ⟨calm.quiet, calm.unrefused⟩
    · rw [same]
      rfl

/-- A calm server lets the first try of a reconnect through. -/
theorem reconnects_calm (hl : l.Mendable) (calm : l.server.Calm) :
    ∃ m, Reconnects l.conn.policy.attempts l [] m ∧ m.conn.isOpen = true ∧ m.server.Calm ∧
      m.server.connects = l.server.connects + 1 := by
  obtain ⟨m, hm, opened, calmThen, connects⟩ :=
    openSession_calm (l := l.disconnect) hl.sound calm hl.uncounted
  exact ⟨_, ⟨l.disconnect, m, .start _, hl.tries, hm, rfl⟩, opened, calmThen, connects⟩

/-- There is a session, and the server lets everything pass. -/
structure Usable (l : Link) : Prop extends Mendable l where
  opened : l.conn.isOpen = true
  calm : l.server.Calm

/-- `m` is usable, after `n` reconnects with one connect each. -/
structure Regains (n : Nat) (l m : Link) : Prop extends Alike l m where
  usable : m.Usable
  reconnects : m.conn.reconnects = l.conn.reconnects + n
  connects : m.server.connects = l.server.connects + n

theorem Regains.refl (hl : l.Usable) : Regains 0 l l := ⟨.refl l, hl, rfl, rfl⟩

theorem Regains.trans (h : Regains n l m) (h' : Regains k m l') : Regains (n + k) l l' := by
  refine ⟨h.toAlike.trans h'.toAlike, h'.usable, ?_, ?_⟩
  · rw [h'.reconnects, h.reconnects, Nat.add_assoc]
  · rw [h'.connects, h.connects, Nat.add_assoc]

/-- The session at hand answers the call. -/
def Welcomes (f : Session.Call α) (l : Link) : Prop :=
  ∀ ses, l.conn.session = some ses → Session.Answers f ses

theorem persist_usable (hl : l.Usable) (hf : Session.Plain f) (answers : l.Welcomes f)
    (onLoss : OnLoss) (left : Nat) :
    ∃ a m, l.persist onLoss f left = (.ok a, m) ∧ Regains 0 l m := by
  obtain ⟨ses, hs⟩ := Option.isSome_iff_exists.1 hl.opened
  obtain ⟨⟨a, ha⟩, noted⟩ := answers ses hs l.server hl.calm
  have submitted : Submits f l (.ok a)
      ⟨{ l.conn with session := some (f ses l.server).2.1 }, (f ses l.server).2.2⟩ :=
    .native hs (by rw [← ha])
  refine ⟨a, _, ?_, ⟨submitted.setup, fun _ => rfl⟩, ⟨?_, rfl, noted.calm hl.calm⟩, rfl,
    noted.connects⟩
  · unfold Link.persist
    rw [submitted.submit]
  · exact enduring_mendable.submits hf submitted hl.toMendable

/-- The reconnects that a call needs on a calm server. -/
def missing (l : Link) : Nat := if l.conn.isOpen then 0 else 1

/-- Without a session a call counts as lost, so it begins with a reconnect. -/
theorem call_regains (hl : l.Mendable) (calm : l.server.Calm) (hf : Session.Plain f)
    (answers : ∀ m, Alike l m → m.Usable → m.Welcomes f) :
    ∃ a m, l.call .retry f = (.ok a, m) ∧ Regains l.missing l m := by
  cases hs : l.conn.session with
  | some ses =>
    have opened : l.conn.isOpen = true := by rw [Connection.isOpen, hs]; rfl
    have hu : l.Usable := ⟨hl, opened, calm⟩
    rw [missing, if_pos opened]
    exact persist_usable hu hf (answers l (.refl l) hu) .retry _
  | none =>
    have closed : l.conn.isOpen = false := by rw [Connection.isOpen, hs]; rfl
    obtain ⟨m, reconnected, opened, calmThen, connects⟩ := reconnects_calm hl calm
    obtain ⟨left, hleft⟩ := Nat.exists_eq_add_one.2 hl.tries
    have first : Regains 1 l m :=
      ⟨(enduring_alike l).reconnects reconnected (.refl l),
        ⟨enduring_mendable.reconnects reconnected hl, opened, calmThen⟩,
        reconnected.reached.2.1, connects⟩
    obtain ⟨a, m', hm', second⟩ := persist_usable first.usable hf
      (answers m first.toAlike first.usable) .retry left
    refine ⟨a, m', ?_, ?_⟩
    · have lost := (Submits.closed (f := f) hs).submit
      have again := reconnected.reconnect (e := ⟨2006, "connection is closed"⟩)
      rw [Link.call, hleft, Link.persist, lost]
      simp only [again, hm']
      rfl
    · rw [missing, closed]
      exact first.trans second

/-- A statement of the registry with all its values, prepared on this connection. -/
structure Accepts (l : Link) (s : Statement) : Prop where
  registered : l.conn.registry.get? s.id = some s.template
  full : ∃ vs, s.values = .ok vs
  prepared : l.conn.isPrepared s.id = true

def AcceptsElement (l : Link) : Element → Prop
  | .raw _ => True
  | .bound s => l.Accepts s

theorem Alike.accepts {s : Statement} (h : Alike l m) (hs : l.Accepts s) : m.Accepts s :=
  ⟨registry_eq h.setup ▸ hs.registered, hs.full, (h.table s.id).trans hs.prepared⟩

theorem Alike.acceptsElement {el : Element} (h : Alike l m) (hel : l.AcceptsElement el) :
    m.AcceptsElement el := by
  cases el with
  | raw sql => trivial
  | bound s => exact h.accepts hel

/-- The session of a usable link has no objection to a statement that is accepted. -/
theorem Accepts.welcomes {s : Statement} {vs : List Value} {g : Nat → List Value → Session.Call α}
    (h : l.Accepts s) (hv : s.values = .ok vs) (hl : l.Mendable)
    (hg : Session.Runs (g s.id vs) (·.bound s.id vs)) : l.Welcomes (g s.id vs) := by
  intro ses hs
  obtain ⟨t, ready⟩ := hl.coherent s.id h.prepared ses hs
  have same : t = s.template :=
    (Option.some.inj (h.registered.symm.trans ready.registered)).symm
  have enough : vs.length = Session.countMarks t.sql := by
    rw [ready.marks (hl.uncounted s.id), same]
    exact Statement.length_of_values hv
  have hb : ses.bound s.id vs = .ok (Session.boundText t.sql vs) := by
    simp only [Session.bound, ready.known, enough, if_true]
  exact hg.answers hb

theorem Accepts.withBound {s : Statement} {vs : List Value} (h : l.Accepts s)
    (hv : s.values = .ok vs) (onLoss : OnLoss) (g : Nat → List Value → Session.Call α) :
    l.withBound onLoss s g = l.call onLoss (g s.id vs) := by
  simp only [Link.withBound, hv, h.prepared, if_true]

theorem withBound_regains {s : Statement} {g : Nat → List Value → Session.Call α}
    (hg : ∀ id vs, Session.Runs (g id vs) (·.bound id vs)) (hl : l.Mendable) (calm : l.server.Calm)
    (h : l.Accepts s) :
    ∃ a m, l.withBound .retry s g = (.ok a, m) ∧ Regains l.missing l m := by
  obtain ⟨vs, hv⟩ := h.full
  rw [h.withBound hv]
  exact call_regains hl calm (hg s.id vs).plain fun m alike usable =>
    (alike.accepts h).welcomes hv usable.toMendable (hg s.id vs)

theorem runElement_usable {el : Element} (hl : l.Usable) (hel : l.AcceptsElement el) :
    ∃ a m, l.runElement el = (.ok a, m) ∧ Regains 0 l m := by
  cases el with
  | raw sql =>
    exact persist_usable hl (Session.execute_runs sql).plain
      (fun _ _ => (Session.execute_runs sql).answers rfl) .report _
  | bound s =>
    obtain ⟨vs, hv⟩ := hel.full
    have runs := Session.executePrepared_runs s.id vs
    simp only [runElement, executeBoundWith, hel.withBound hv]
    exact persist_usable hl runs.plain (hel.welcomes hv hl.toMendable runs) .report _

theorem runElements_usable {els : List Element} (hl : l.Usable)
    (hels : ∀ el ∈ els, l.AcceptsElement el) :
    ∃ m, l.runElements els = (.ok (), m) ∧ Regains 0 l m := by
  induction els generalizing l with
  | nil => exact ⟨l, rfl, .refl hl⟩
  | cons el els ih =>
    obtain ⟨a, m, hm, first⟩ := runElement_usable hl (hels el (by simp))
    obtain ⟨m', hm', rest⟩ := ih first.usable fun el' hel' =>
      first.toAlike.acceptsElement (hels el' (by simp [hel']))
    exact ⟨m', by simp only [runElements, hm, hm'], first.trans rest⟩

/-- Only the begin can need a reconnect; the elements and the commit find a session. -/
theorem runTransaction_regains {t : Transaction} (hl : l.Mendable) (calm : l.server.Calm)
    (filled : t.elements ≠ []) (hels : ∀ el ∈ t.elements, l.AcceptsElement el) :
    ∃ m, l.runTransaction t = (.ok (), m) ∧ Regains l.missing l m := by
  obtain ⟨u, m, hm, begun⟩ := call_regains hl calm Session.begin_plain
    fun _ _ _ ses _ => Session.begin_answers ses
  obtain ⟨m', hm', ran⟩ := runElements_usable begun.usable fun el hel =>
    begun.toAlike.acceptsElement (hels el hel)
  obtain ⟨v, l', hl', committed⟩ := persist_usable ran.usable Session.commit_plain
    (fun ses _ => Session.commit_answers ses) .report m'.conn.policy.attempts
  have hc : m'.call .report Session.commit = (.ok v, l') := hl'
  refine ⟨l', ?_, (begun.trans ran).trans committed⟩
  have hempty : t.elements.isEmpty = false := by simpa using filled
  simp only [runTransaction, hempty, Bool.false_eq_true, if_false, hm, hm', commitOpen, hc]

theorem run_sound {steps : List Step} (hl : l.Sound) : (l.run steps).Sound := by
  apply steady_sound.run (fun _ => openSession_sound) _ steps hl
  intro m d hm id hid
  obtain ⟨t, ht, marks⟩ := hm id hid
  exact ⟨t, ht, fun hcount => marks (counts_follow hcount)⟩

theorem run_settled {steps : List Step} (hl : l.conn.reconnecting = false) :
    (l.run steps).conn.reconnecting = false :=
  steady_settled.run (fun m hm => m.openSession_reached.reconnecting.trans hm)
    (fun _ _ hm => hm) steps hl

/-- A connection as it is made: it has no session and knows no statement. -/
def made (s : Setup) (server : Server) : Link where
  conn := { login := s.login, side := s.side, registry := s.registry, policy := s.policy }
  server := server

theorem made_mendable {s : Setup} {server : Server} {steps : List Step}
    (tries : 0 < s.policy.attempts) (opened : (made s server).OpensSucceed steps)
    (uncounted : ∀ id, ((made s server).run steps).server.counts.get? id = none) :
    ((made s server).run steps).Mendable where
  coherent := run_coherent opened (coherent_of_closed rfl)
  sound := run_sound fun _ hid => (Bool.false_ne_true hid).elim
  settled := run_settled rfl
  tries := by rwa [policy_eq ((made s server).run_setup steps)]
  uncounted := uncounted

/-- What a call comes to that finds the connection again: it goes well and leaves a session, after
one reconnect with one connect if there was none. -/
structure Recovers (l : Link) (r : Outcome α) : Prop where
  ok : ∃ a, r.1 = .ok a
  opened : r.2.conn.isOpen = true
  settled : r.2.conn.reconnecting = false
  reconnects : r.2.conn.reconnects = l.conn.reconnects + if l.conn.isOpen then 0 else 1
  connects : r.2.server.connects = l.server.connects + if l.conn.isOpen then 0 else 1

theorem Regains.recovers {a : α} {r : Outcome α} (hr : r = (.ok a, m))
    (h : Regains l.missing l m) : Recovers l r := by
  subst hr
  exact ⟨⟨a, rfl⟩, h.usable.opened, h.usable.settled, h.reconnects, h.connects⟩

theorem Recovers.cursor {r : Outcome Table} (h : Recovers l r) : Recovers l (cursor r) := by
  obtain ⟨a, ha⟩ := h.ok
  refine ⟨⟨Cursor.ofTable? a, ?_⟩, h.opened, h.settled, h.reconnects, h.connects⟩
  simp only [Link.cursor, ha, Except.map]

/-- No connection is wedged: after any calls in which the direct opens went well, once the server
lets everything pass, the next call goes well and leaves an open session. A transaction without
elements reaches no server, so it goes well and changes nothing. -/
theorem run_recovers (s : Setup) (server : Server) (steps : List Step)
    (tries : 0 < s.policy.attempts) (opened : (made s server).OpensSucceed steps)
    (uncounted : ∀ id, ((made s server).run steps).server.counts.get? id = none)
    (calm : ((made s server).run steps).server.Calm) :
    let m := (made s server).run steps
    (∀ sql, Recovers m (m.execute sql)) ∧ (∀ sql, Recovers m (m.query sql)) ∧
    Recovers m m.ping ∧
    (∀ t : Transaction, (∀ el ∈ t.elements, m.AcceptsElement el) →
      (t.elements ≠ [] → Recovers m (m.runTransaction t)) ∧
      (t.elements = [] → m.runTransaction t = (.ok (), m))) ∧
    ∀ st, m.Accepts st → Recovers m (m.executeBound st) ∧ Recovers m (m.queryBound st) := by
  intro m
  have hm : m.Mendable := made_mendable tries opened uncounted
  have texts {β : Type} {f : Session.Call β} {sql : String} (runs : Session.Runs f fun _ => .ok sql) :
      Recovers m (m.call .retry f) := by
    obtain ⟨a, l', hl', regains⟩ := call_regains hm calm runs.plain
      fun _ _ _ _ _ => runs.answers rfl
    exact regains.recovers hl'
  refine ⟨?_, ?_, ?_, ?_, ?_⟩
  · intro sql
    exact texts (Session.execute_runs sql)
  · intro sql
    exact (texts (Session.query_runs sql)).cursor
  · obtain ⟨a, l', hl', regains⟩ := call_regains hm calm Session.ping_plain
      fun _ _ _ ses _ => Session.ping_answers ses
    exact regains.recovers hl'
  · intro t hels
    constructor
    · intro filled
      obtain ⟨l', hl', regains⟩ := runTransaction_regains hm calm filled hels
      exact regains.recovers hl'
    · intro empty
      simp only [runTransaction, empty, List.isEmpty_nil, if_true]
  · intro st hst
    obtain ⟨a, l', hl', executed⟩ := withBound_regains Session.executePrepared_runs hm calm hst
    obtain ⟨b, k', hk', queried⟩ := withBound_regains Session.queryPrepared_runs hm calm hst
    exact ⟨executed.recovers hl', (queried.recovers hk').cursor⟩

/-- The session is lost and the one try at another is refused, so the connection gives up. -/
def exhausting : List Step :=
  [.request .openSession, .request .prepareStatements,
    .direction (.addRule ⟨"SELECT ? [", 2013, some 1⟩), .direction (.refuseConnects 1),
    .request (.executeBound boundSelect)]

/-- Two raw texts around a bound statement. -/
def mixed : Transaction := ⟨[.raw "UPDATE a", .bound boundSelect, .raw "UPDATE b"], false⟩

theorem run_recovers_exhausting :
    let s : Setup := { fresh.conn.setup with policy := ⟨1, .zero⟩ }
    let m := (made s {}).run exhausting
    (0 < s.policy.attempts ∧ (made s {}).OpensSucceed exhausting ∧
      (∀ id, m.server.counts.get? id = none) ∧ m.server.Calm) ∧
    m.conn.isOpen = false ∧ m.Accepts boundSelect ∧
    Recovers m (m.executeBound boundSelect) ∧ Recovers m (m.runTransaction mixed) := by
  intro s m
  have opened : (made s {}).OpensSucceed exhausting := by
    refine opensSucceed_cons.2 ⟨fun _ => by rfl, ?_⟩
    iterate 4 refine opensSucceed_cons.2 ⟨fun h => (by cases h), ?_⟩
    exact opensSucceed_nil
  have uncounted : ∀ id, m.server.counts.get? id = none := by
    have hcounts : m.server.counts.toList = [] := by decide +kernel
    intro id
    simp only [Keyed.get?, hcounts, List.find?_nil]
  have calm : m.server.Calm := ⟨by decide +kernel, by decide +kernel⟩
  have closed : m.conn.isOpen = false := by decide +kernel
  have accepts : m.Accepts boundSelect :=
    ⟨by rw [registry_eq ((made s {}).run_setup exhausting)]; rfl, ⟨_, rfl⟩, by decide +kernel⟩
  have recovers := run_recovers s {} exhausting (by decide) opened uncounted calm
  have elements : ∀ el ∈ mixed.elements, m.AcceptsElement el := by
    intro el hel
    simp only [mixed, List.mem_cons, List.not_mem_nil, or_false] at hel
    rcases hel with rfl | rfl | rfl
    · trivial
    · exact accepts
    · trivial
  exact ⟨⟨by decide, opened, uncounted, calm⟩, closed, accepts,
    (recovers.2.2.2.2 boundSelect accepts).1,
    (recovers.2.2.2.1 mixed elements).1 (List.cons_ne_nil _ _)⟩

/-- A new connection stays closed over a transaction without elements, though all its elements are
accepted. -/
theorem empty_transaction_leaves_closed :
    let m := (made fresh.conn.setup {}).run []
    (0 < fresh.conn.setup.policy.attempts ∧ (made fresh.conn.setup {}).OpensSucceed [] ∧
      (∀ id, m.server.counts.get? id = none) ∧ m.server.Calm) ∧
    (∀ el ∈ ({} : Transaction).elements, m.AcceptsElement el) ∧
    m.runTransaction {} = (.ok (), m) ∧ m.conn.isOpen = false ∧
    ¬ Recovers m (m.runTransaction {}) := by
  intro m
  have calm : m.server.Calm := ⟨by decide, rfl⟩
  have elements : ∀ el ∈ ({} : Transaction).elements, m.AcceptsElement el := by
    intro el hel
    cases hel
  refine ⟨⟨by decide, opensSucceed_nil, fun _ => rfl, calm⟩, elements, rfl, rfl, ?_⟩
  intro recovers
  have opened := recovers.opened
  cases opened

end QueryPool.Link
