import QueryPool.Connection.Transaction
import QueryPool.Proofs.Server.Calls

namespace QueryPool

/-- What a connection is made with. -/
structure Setup where
  login : Login
  side : Side
  registry : Registry
  policy : ReconnectPolicy

def Connection.setup (c : Connection) : Setup := ⟨c.login, c.side, c.registry, c.policy⟩

namespace Link

variable {α : Type}

theorem registry_eq {l l' : Link} (h : l'.conn.setup = l.conn.setup) :
    l'.conn.registry = l.conn.registry := congrArg Setup.registry h

theorem policy_eq {l l' : Link} (h : l'.conn.setup = l.conn.setup) :
    l'.conn.policy = l.conn.policy := congrArg Setup.policy h

theorem prepareOne_cases (t : Template) (l : Link) :
    (l.conn.session = none ∧
      l.prepareOne t = (.error (.connection (.closed t.id l.conn.login.text)), l)) ∨
    (∃ ses, l.conn.session = some ses ∧
      ((∃ e server, Server.Charged l.server server ∧
          l.prepareOne t = (.error (.database e), { l with server })) ∨
        (∃ n, n = Session.reportedCount l.server t.id t.sql ∧
          let ses' := { ses with prepared := ses.prepared.insert (t.id, t.sql) }
          let conn := { l.conn with session := some ses' }
          (n = t.slots ∧ l.prepareOne t =
            (.ok (), { l with conn := { conn with prepared := conn.prepared.insert (t.id, n) } })) ∨
          (n ≠ t.slots ∧ l.prepareOne t =
            (.error (.config (.placeholderCount t.id t.slots n)), { l with conn }))))) := by
  obtain ⟨conn, server⟩ := l
  cases hs : conn.session with
  | none => exact .inl ⟨rfl, by simp [prepareOne, hs]⟩
  | some ses =>
    refine .inr ⟨ses, rfl, ?_⟩
    rcases hp : Session.prepare t.id t.sql ses server with ⟨e | n, ses', server'⟩
    · obtain ⟨rfl, hc⟩ := Session.prepare_error hp
      refine .inl ⟨e, server', hc, ?_⟩
      simp only [prepareOne, hs, hp]
      rw [← hs]
    · obtain ⟨hn, rfl, rfl⟩ := Session.prepare_ok hp
      refine .inr ⟨n, hn, ?_⟩
      by_cases h : n = t.slots
      · exact .inl ⟨h, by simp only [prepareOne, hs, hp, if_pos h]⟩
      · exact .inr ⟨h, by simp only [prepareOne, hs, hp, if_neg h]⟩

/-- Preparations of registered templates one after the other, whether they succeed or not. -/
inductive Prepares : Link → Link → Prop where
  | refl (l : Link) : Prepares l l
  | step {l l' : Link} {t : Template} (registered : l.conn.registry.get? t.id = some t)
      (rest : Prepares (l.prepareOne t).2 l') : Prepares l l'

theorem Prepares.induct {P : Link → Prop} {l l' : Link} (h : Prepares l l')
    (step : ∀ l t, l.conn.registry.get? t.id = some t → P l → P (l.prepareOne t).2) (hl : P l) :
    P l' := by
  induction h with
  | refl l => exact hl
  | step registered _ ih => exact ih (step _ _ registered hl)

/-- What preparing leaves alone. -/
structure Kept (l l' : Link) : Prop where
  setup : l'.conn.setup = l.conn.setup
  reconnecting : l'.conn.reconnecting = l.conn.reconnecting
  reconnects : l'.conn.reconnects = l.conn.reconnects
  failedAttempts : l'.conn.failedAttempts = l.conn.failedAttempts
  pending : l'.conn.session.map Session.pending = l.conn.session.map Session.pending
  server : Server.Charged l.server l'.server

namespace Kept

theorem refl (l : Link) : Kept l l := ⟨rfl, rfl, rfl, rfl, rfl, .refl _⟩

theorem trans {l l' l'' : Link} (h : Kept l l') (h' : Kept l' l'') : Kept l l'' :=
  ⟨h'.setup.trans h.setup, h'.reconnecting.trans h.reconnecting,
    h'.reconnects.trans h.reconnects, h'.failedAttempts.trans h.failedAttempts,
    h'.pending.trans h.pending, h.server.trans h'.server⟩

end Kept

theorem prepareOne_kept (t : Template) (l : Link) : Kept l (l.prepareOne t).2 := by
  rcases l.prepareOne_cases t with ⟨_, h⟩ | ⟨ses, hs, ⟨e, server, hc, h⟩ | ⟨n, _, ⟨_, h⟩ | ⟨_, h⟩⟩⟩
  · rw [h]
    exact .refl l
  · rw [h]
    exact ⟨rfl, rfl, rfl, rfl, rfl, hc⟩
  all_goals
    rw [h]
    exact ⟨rfl, rfl, rfl, rfl, by simp [hs], .refl _⟩

theorem Prepares.kept {l l' : Link} (h : Prepares l l') : Kept l l' :=
  h.induct (fun m t _ hm => hm.trans (m.prepareOne_kept t)) (.refl l)

theorem prepareAll_prepares (ts : List Template) (l : Link)
    (h : ∀ t ∈ ts, l.conn.registry.get? t.id = some t) : Prepares l (l.prepareAll ts).2 := by
  induction ts generalizing l with
  | nil => exact .refl l
  | cons t ts ih =>
    have ht := h t (by simp)
    unfold prepareAll
    split
    · rename_i m hm
      have hk := l.prepareOne_kept t
      have hp := ih m (fun u hu => by
        rw [hm] at hk
        rw [registry_eq hk.setup]
        exact h u (by simp [hu]))
      exact .step ht (by rwa [hm])
    · exact .step ht (.refl _)

theorem prepareStatements_prepares (l : Link) : Prepares l l.prepareStatements.2 := by
  apply prepareAll_prepares
  intro t ht
  exact Keyed.get?_of_mem (List.mem_filter.1 ht).1

theorem prepareAgain_prepares (ids : List Nat) (l : Link) : Prepares l (l.prepareAgain ids).2 := by
  induction ids generalizing l with
  | nil => exact .refl l
  | cons id ids ih =>
    unfold prepareAgain
    split
    · exact .refl l
    · rename_i t ht
      have registered : l.conn.registry.get? t.id = some t := by rwa [Keyed.key_of_get? ht]
      split
      · rename_i m hm
        exact .step registered (by simpa only [hm] using ih m)
      · exact .step registered (.refl _)

/-- The link right after a connect that was let in, with nothing prepared on its session yet. -/
def renewed (l : Link) : Link where
  conn := { l.conn with session := some { id := l.server.sessions + 1 } }
  server := { l.server with
    connects := l.server.connects + 1, sessions := l.server.sessions + 1 }

/-- An open either fails to connect, and nothing happened but the connect, or prepares on a new
session. -/
theorem openSession_cases (l : Link) :
    (∃ e n, l.server.refusals = n + 1 ∧ l.openSession = (.error (.database e),
      { l with server := { l.server with connects := l.server.connects + 1, refusals := n } })) ∨
    (l.server.refusals = 0 ∧
      l.openSession = l.renewed.prepareAgain l.conn.prepared.keys) := by
  rcases l.server.connect_cases l.conn.login with ⟨hr, h⟩ | ⟨n, hr, h⟩
  · exact .inr ⟨hr, by simp only [openSession, h]; rfl⟩
  · exact .inl ⟨_, n, hr, by simp only [openSession, h]; rfl⟩

/-- What opening a session leaves alone. -/
structure Reached (l l' : Link) : Prop where
  setup : l'.conn.setup = l.conn.setup
  reconnecting : l'.conn.reconnecting = l.conn.reconnecting
  reconnects : l'.conn.reconnects = l.conn.reconnects
  failedAttempts : l'.conn.failedAttempts = l.conn.failedAttempts
  journal : l'.server.journal = l.server.journal
  counts : l'.server.counts = l.server.counts

theorem openSession_reached (l : Link) : Reached l l.openSession.2 := by
  rcases l.openSession_cases with ⟨e, n, _, h⟩ | ⟨_, h⟩
  · rw [h]
    exact ⟨rfl, rfl, rfl, rfl, rfl, rfl⟩
  · rw [h]
    have hk := (prepareAgain_prepares l.conn.prepared.keys l.renewed).kept
    exact ⟨hk.setup, hk.reconnecting, hk.reconnects, hk.failedAttempts, hk.server.journal,
      hk.server.counts⟩

/-- A bound statement is refused at once, or its values are submitted. -/
theorem withBound_cases (onLoss : OnLoss) (s : Statement) (g : Nat → List Value → Session.Call α)
    (l : Link) :
    (∃ p, s.values = .error (.binding p) ∧ l.withBound onLoss s g = (.error (.binding p), l)) ∨
    (∃ vs, s.values = .ok vs ∧ l.conn.isPrepared s.id = false ∧
      l.withBound onLoss s g = (.error (.unprepared s.id), l)) ∨
    (∃ vs, s.values = .ok vs ∧ l.conn.isPrepared s.id = true ∧
      l.withBound onLoss s g = l.call onLoss (g s.id vs)) := by
  cases hv : s.values with
  | error e =>
    obtain ⟨p, rfl⟩ := Statement.values_error hv
    exact .inl ⟨p, rfl, by simp only [withBound, hv]⟩
  | ok vs =>
    cases hp : l.conn.isPrepared s.id with
    | false => exact .inr (.inl ⟨vs, rfl, rfl, by simp [withBound, hv, hp]⟩)
    | true => exact .inr (.inr ⟨vs, rfl, rfl, by simp [withBound, hv, hp]⟩)

end Link
end QueryPool
