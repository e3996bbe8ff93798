import QueryPool.Proofs.Connection.Retry

namespace QueryPool

namespace Link

variable {α : Type} {f : Session.Call α} {l m l' : Link} {e : NativeError}

/-- Every statement that the session knows is the registry's. -/
def Registered (l : Link) : Prop :=
  ∀ ses, l.conn.session = some ses → ∀ id p, ses.prepared.get? id = some p →
    ∃ t, l.conn.registry.get? id = some t ∧ p.2 = t.sql

/-- The state between calls: no transaction is open. -/
structure Idle (l : Link) : Prop where
  registered : l.Registered
  settled : ∀ ses, l.conn.session = some ses → ses.pending = none

/-- A transaction is open in which the listed texts ran. -/
structure Within (l : Link) (texts : List String) : Prop where
  registered : l.Registered
  pending : ∃ ses, l.conn.session = some ses ∧ ses.pending = some texts

/-- The visible texts grew by `texts`, the count of commits by `n`. -/
structure Shows (l : Link) (texts : List String) (n : Nat) (l' : Link) : Prop where
  setup : l'.conn.setup = l.conn.setup
  committed : l'.server.committed = l.server.committed ++ texts
  commits : l'.server.commits = l.server.commits + n

namespace Shows

variable {texts texts' : List String} {n n' : Nat}

theorem refl (l : Link) : Shows l [] 0 l := ⟨rfl, by simp, rfl⟩

theorem trans (h : Shows l texts n m) (h' : Shows m texts' n' l') :
    Shows l (texts ++ texts') (n + n') l' where
  setup := h'.setup.trans h.setup
  committed := by rw [h'.committed, h.committed, List.append_assoc]
  commits := by rw [h'.commits, h.commits, Nat.add_assoc]

theorem of_journal (hs : l'.conn.setup = l.conn.setup)
    (hj : l'.server.journal = l.server.journal) : Shows l [] 0 l' where
  setup := hs
  committed := by rw [List.append_nil]; exact congrArg Journal.committed hj
  commits := congrArg Journal.commits hj

/-- What shows nothing may stand before what shows something. -/
theorem after (h' : Shows m texts n l') (h : Shows l [] 0 m) : Shows l texts n l' := by
  simpa using h.trans h'

end Shows

theorem idle_of_closed (h : l.conn.session = none) : l.Idle :=
  ⟨fun ses hs => by simp [h] at hs, fun ses hs => by simp [h] at hs⟩

theorem prepareOne_registered (t : Template) (ht : l.conn.registry.get? t.id = some t)
    (h : l.Registered) : (l.prepareOne t).2.Registered := by
  rcases l.prepareOne_cases t with ⟨_, hp⟩ | ⟨ses, hs, ⟨e, server, hc, hp⟩ | ⟨n, _, ⟨_, hp⟩ | ⟨_, hp⟩⟩⟩
  · rwa [hp]
  · rw [hp]
    exact h
  all_goals
    rw [hp]
    intro ses' hs' id p hget
    cases hs'
    rw [Keyed.get?_insert] at hget
    split at hget
    · rename_i hid
      cases hget
      subst hid
      exact ⟨t, ht, rfl⟩
    · exact h ses hs id p hget

theorem prepareOne_idle (t : Template) (ht : l.conn.registry.get? t.id = some t) (h : l.Idle) :
    (l.prepareOne t).2.Idle where
  registered := prepareOne_registered t ht h.registered
  settled ses hs := by
    have hp := (l.prepareOne_kept t).pending
    rw [hs] at hp
    obtain ⟨ses', hs', hp'⟩ := Option.map_eq_some_iff.1 hp.symm
    rw [← hp']
    exact h.settled ses' hs'

theorem Prepares.idle (h : Prepares l l') (hl : l.Idle) : l'.Idle :=
  h.induct (fun _ t ht hm => prepareOne_idle t ht hm) hl

theorem openSession_idle (h : l.Idle) : l.openSession.2.Idle := by
  rcases l.openSession_cases with ⟨_, _, _, ho⟩ | ⟨_, ho⟩
  · rw [ho]
    exact ⟨h.registered, h.settled⟩
  · rw [ho]
    apply (prepareAgain_prepares l.conn.prepared.keys l.renewed).idle
    constructor
    · intro ses hs id p hp
      cases hs
      simp at hp
    · intro ses hs
      cases hs
      rfl

theorem Reconnects.idle {n : Nat} {errs : List PoolError} (h : Reconnects n l errs l') :
    l'.Idle := by
  obtain ⟨m, m', refused, _, opened, rfl⟩ := h
  have hm := openSession_idle (idle_of_closed (refused.reached rfl).1)
  rw [opened] at hm
  exact ⟨hm.registered, hm.settled⟩

theorem Reconnects.shows {n : Nat} {errs : List PoolError} (h : Reconnects n l errs l') :
    Shows l [] 0 l' := .of_journal h.reached.1 h.reached.2.2.1

theorem GivesUp.shows {n : Nat} {errs : List PoolError} (h : GivesUp n l errs l') :
    Shows l [] 0 l' := .of_journal h.reached.2.1 h.reached.2.2.2.1

/-- A failed submission leaves no trace but a fired rule. -/
theorem Submits.error_eq (hf : Session.Plain f) (h : Submits f l (.error e) m) :
    ∃ server, Server.Charged l.server server ∧ m = { l with server } := by
  cases h with
  | native opened ran =>
    obtain ⟨rfl, hc⟩ := hf.failed ran
    refine ⟨_, hc, ?_⟩
    rw [← opened]
  | closed h => exact ⟨_, .refl _, rfl⟩

theorem Submits.shows (hf : Session.Plain f) (h : Submits f l (.error e) m) : Shows l [] 0 m := by
  obtain ⟨server, hc, rfl⟩ := h.error_eq hf
  exact .of_journal rfl hc.journal

theorem Submits.idle (hf : Session.Plain f) (h : Submits f l (.error e) m) (hl : l.Idle) :
    m.Idle := by
  obtain ⟨server, hc, rfl⟩ := h.error_eq hf
  exact ⟨hl.registered, hl.settled⟩

theorem Submits.registered (hf : Session.Plain f) {r : Except NativeError α}
    (h : Submits f l r m) (hl : l.Registered) : m.Registered := by
  cases h with
  | @native ses ses' server r opened ran =>
    intro ses'' hs id p hp
    cases hs
    have hk := (hf.keeps ses l.server).2.1
    rw [ran] at hk
    simp only at hk
    rw [hk] at hp
    exact hl ses opened id p hp
  | closed => exact hl

theorem Losses.idle (hf : Session.Plain f) {n : Nat} {xs : List Loss} (h : Losses f n l xs m)
    (hl : l.Idle) : m.Idle ∧ Shows l [] 0 m := by
  induction h with
  | none l => exact ⟨hl, .refl l⟩
  | more submitted _ reconnected _ ih =>
    obtain ⟨hm, hs⟩ := ih reconnected.idle
    exact ⟨hm, (hs.after reconnected.shows).after (submitted.shows hf)⟩

/-- A call within a transaction is submitted once. When that fails, the error names a lost session
or the session is still there. -/
theorem call_report_ok {a : α} (h : l.call .report f = (.ok a, l')) : Submits f l (.ok a) l' := by
  unfold call persist at h
  split at h
  · rename_i hs
    cases h
    exact submits_of_submit hs
  · split at h
    · split at h
      · cases h
      · simp only at h
        split at h <;> cases h
    all_goals cases h

end Link
end QueryPool
