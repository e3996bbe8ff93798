import QueryPool.Proofs.Connection.Recovery
import QueryPool.Proofs.Statement.Binding

namespace QueryPool.Link

variable {α : Type} {f : Session.Call α} {l m l' : Link} {id : Nat} {t : Template} {s : Statement}

/-- No call that reaches a session fails for the binding. -/
theorem call_not_binding (f : Session.Call α) (l : Link) (p : BindingProblem) :
    (l.call .retry f).1 ≠ .error (.binding p) := by
  obtain ⟨_, _, _, _, decides, _⟩ := (call_iff_course f l _).1 rfl
  generalize l.call .retry f = r at decides
  cases decides <;> simp

/-- A statement is refused for its binding when it lacks values, before the connection is asked. -/
theorem withBound_binding_iff (s : Statement) (g : Nat → List Value → Session.Call α) (l : Link)
    (p : BindingProblem) :
    (l.withBound .retry s g).1 = .error (.binding p) ↔ s.values = .error (.binding p) := by
  rcases l.withBound_cases .retry s g with ⟨q, hv, hb⟩ | ⟨vs, hv, _, hb⟩ | ⟨vs, hv, _, hb⟩
  · rw [hb, hv]
    simp
  · rw [hb, hv]
    simp
  · rw [hb, hv]
    simp [call_not_binding]

theorem withBound_of_error {e : PoolError} (h : s.values = .error e)
    (g : Nat → List Value → Session.Call α) (l : Link) : l.withBound .retry s g = (.error e, l) := by
  simp only [withBound, h]

/-- Whatever the session knows, it knows by the registry's text. -/
def Schooled (l : Link) : Prop :=
  ∀ ses, l.conn.session = some ses → ∀ id p, ses.prepared.get? id = some p →
    ∃ t, l.conn.registry.get? id = some t ∧ p = (id, t.sql)

theorem schooled_of_closed (h : l.conn.session = none) : l.Schooled := by
  intro ses hs
  cases h.symm.trans hs

theorem prepareOne_schooled (ht : l.conn.registry.get? t.id = some t) (h : l.Schooled) :
    (l.prepareOne t).2.Schooled := by
  rcases l.prepareOne_cases t with ⟨_, hp⟩ | ⟨ses, hs, hcases⟩
  · rwa [hp]
  · have learns : ∀ id p, (ses.prepared.insert (t.id, t.sql)).get? id = some p →
        ∃ u, l.conn.registry.get? id = some u ∧ p = (id, u.sql) := by
      intro id p hget
      rw [Keyed.get?_insert] at hget
      split at hget
      · rename_i hid
        cases hget
        exact ⟨t, hid ▸ ht, by rw [← hid]⟩
      · exact h ses hs id p hget
    rcases hcases with ⟨e, server, _, hp⟩ | ⟨n, _, ⟨_, hp⟩ | ⟨_, hp⟩⟩
    · rw [hp]
      exact h
    all_goals
      rw [hp]
      intro ses' hs'
      cases hs'
      exact learns

theorem Prepares.schooled (h : Prepares l l') (hl : l.Schooled) : l'.Schooled :=
  h.induct (fun _ _ ht hm => prepareOne_schooled ht hm) hl

theorem openSession_schooled (h : l.Schooled) : l.openSession.2.Schooled := by
  rcases l.openSession_cases with ⟨e, n, _, ho⟩ | ⟨_, ho⟩
  · rw [ho]
    exact h
  · rw [ho]
    -- a new session knows nothing yet
    refine (prepareAgain_prepares l.conn.prepared.keys l.renewed).schooled fun ses hs id p hget => ?_
    cases hs
    cases hget

theorem Reconnects.schooled {n : Nat} {errs : List PoolError} (h : Reconnects n l errs l') :
    l'.Schooled := by
  obtain ⟨m, m', refused, _, opened, rfl⟩ := h
  have closed : m.Schooled := schooled_of_closed (refused.reached rfl).1
  have hm := openSession_schooled closed
  rw [opened] at hm
  exact hm

theorem Submits.schooled {r : Except NativeError α} (hf : Session.Plain f) (h : Submits f l r m)
    (hl : l.Schooled) : m.Schooled := by
  cases h with
  | closed => exact hl
  | @native ses ses' server r opened ran =>
    intro ses'' hs
    cases hs
    have same := (hf.keeps ses l.server).2.1
    rw [ran] at same
    intro id p hget
    rw [same] at hget
    exact hl ses opened id p hget

theorem steady_schooled : Steady Schooled where
  submits hf h hl := h.schooled hf hl
  reconnects h _ := h.schooled
  givesUp h _ := schooled_of_closed h.reached.1
  prepares h hl := h.schooled hl
  close _ := schooled_of_closed rfl

theorem run_schooled {steps : List Step} (hl : l.Schooled) : (l.run steps).Schooled :=
  steady_schooled.run (fun _ => openSession_schooled) (fun _ _ hm => hm) steps hl

/-- The session knows the statement, and the script has nothing against a query of its values. -/
structure Unhindered (l : Link) (s : Statement) (vs : List Value) : Prop where
  registered : l.conn.registry.get? s.id = some s.template
  listed : l.conn.isPrepared s.id = true
  known : ∃ ses, l.conn.session = some ses ∧ ses.prepared.contains s.id = true
  uncounted : l.server.counts.get? s.id = none
  uncharged : ∀ r ∈ l.server.rules, r.charges (Session.boundText s.template.sql vs) = false
  shown : l.server.findsNothing (Session.boundText s.template.sql vs) = false

/-- The session finds the number of values right and gives the text that it logs. -/
theorem Unhindered.bound {vs : List Value} (h : l.Unhindered s vs) (schooled : l.Schooled)
    (sound : l.Sound) (hv : s.values = .ok vs) :
    ∃ ses, l.conn.session = some ses ∧
      ses.bound s.id vs = .ok (Session.boundText s.template.sql vs) := by
  obtain ⟨ses, opened, known⟩ := h.known
  obtain ⟨p, hget⟩ := Keyed.contains_iff.1 known
  obtain ⟨t, ht, rfl⟩ := schooled ses opened s.id p hget
  obtain rfl : s.template = t := Option.some.inj (h.registered.symm.trans ht)
  obtain ⟨u, hu, marks⟩ := sound s.id h.listed
  obtain rfl : s.template = u := Option.some.inj (h.registered.symm.trans hu)
  have enough : vs.length = Session.countMarks s.template.sql := by
    rw [marks h.uncounted]
    exact Statement.length_of_values hv
  exact ⟨ses, opened, by simp only [Session.bound, hget, enough, if_true]⟩

theorem ask_unhindered {srv : Server} {text : String} (ses : Session) (row : Row)
    (uncharged : ∀ r ∈ srv.rules, r.charges text = false) (shown : srv.findsNothing text = false) :
    ∃ columns ses' srv', Session.ask text row ses srv = (.ok ⟨columns, [row]⟩, ses', srv') := by
  have passes : srv.check text = (.ok (), srv) := by
    simp only [Server.check, Rule.charge_of_uncharged uncharged]
  obtain ⟨ses', srv', ran⟩ : ∃ ses' srv', Session.run text ses srv = (.ok (), ses', srv') := by
    simp only [Session.run, passes]
    cases ses.pending <;> exact ⟨_, _, rfl⟩
  have still : srv'.findsNothing text = false := by
    rw [(Session.run_ok ran).2]
    exact shown
  simp only [Session.ask, ran, Session.answer, still, Bool.false_eq_true, if_false]
  exact ⟨_, _, _, rfl⟩

/-- The one row of the answer holds the values as they were bound. -/
theorem queryBound_unhindered {vs : List Value} (h : l.Unhindered s vs) (schooled : l.Schooled)
    (sound : l.Sound) (hv : s.values = .ok vs) (takes : 0 < s.template.slots) :
    ∃ c, (l.queryBound s).1 = .ok (some c) ∧ c.toList = [vs] ∧ c.rowCount = 1 := by
  obtain ⟨ses, opened, hb⟩ := h.bound schooled sound hv
  have filled : vs.isEmpty = false := by
    have hlen := Statement.length_of_values hv
    cases vs with
    | nil => simp at hlen; omega
    | cons => rfl
  obtain ⟨columns, ses', server, asked⟩ := ask_unhindered ses vs h.uncharged h.shown
  have submitted : Submits (Session.queryPrepared s.id vs) l (.ok ⟨columns, [vs]⟩)
      ⟨{ l.conn with session := some ses' }, server⟩ :=
    .native opened (by simp only [Session.queryPrepared, hb, filled, Bool.false_eq_true, if_false,
      asked])
  have called : l.call .retry (Session.queryPrepared s.id vs) =
      (.ok ⟨columns, [vs]⟩, ⟨{ l.conn with session := some ses' }, server⟩) := by
    rw [Link.call, Link.persist, submitted.submit]
  refine ⟨⟨columns, 1, vs, []⟩, ?_, rfl, rfl⟩
  simp only [queryBound, withBound, hv, h.listed, if_true, called, cursor]
  rfl

/-- A statement has all its values if and only if since the last clear every slot had one put and
none was put past them; then it has in each slot what was put there last. Otherwise a value past
them is reported if there is one, else the first slot without a value. Every connection refuses a
statement for its binding in these cases alone, and is left as it was, its server too. After any run,
a query of a statement that the session knows and the script lets pass gives its values back as one
row. -/
theorem bound_as_put :
    (∀ (t : Template) (bs : List Binding),
      let s := (Statement.ofTemplate t).history bs
      let put := Binding.putSince bs
      ((∃ vs, s.values = .ok vs) ↔
        (∀ i < t.slots, Binding.latest put i ≠ none) ∧ ∀ p ∈ put, p.1 < t.slots) ∧
      (∀ vs, s.values = .ok vs →
        vs.length = t.slots ∧ ∀ i < t.slots, vs[i]? = Binding.latest put i) ∧
      (∀ i < t.slots, (∀ p ∈ put, p.1 < t.slots) → Binding.latest put i = none →
        (∀ j < i, Binding.latest put j ≠ none) →
        s.values = .error (.binding (.unbound t.id i t.slots))) ∧
      ((∃ p ∈ put, t.slots ≤ p.1) →
        ∃ i, s.values = .error (.binding (.pastEnd t.id t.slots i)))) ∧
    (∀ (l : Link) (s : Statement),
      (∀ e, s.values = .error e → l.executeBound s = (.error e, l) ∧ l.queryBound s = (.error e, l)) ∧
      (∀ p, ((l.executeBound s).1 = .error (.binding p) ↔ s.values = .error (.binding p)) ∧
        ((l.queryBound s).1 = .error (.binding p) ↔ s.values = .error (.binding p)))) ∧
    ∀ (setup : Setup) (server : Server) (steps : List Step) (s : Statement) (vs : List Value),
      let l := (made setup server).run steps
      l.Unhindered s vs → s.values = .ok vs → 0 < s.template.slots →
        ∃ c, (l.queryBound s).1 = .ok (some c) ∧ c.toList = [vs] ∧ c.rowCount = 1 := by
  refine ⟨fun t bs => ?_, fun l s => ⟨fun e he => ?_, fun p => ?_⟩,
    fun setup server steps s vs h hv takes => ?_⟩
  · intro s put
    obtain ⟨same, reflects⟩ : s.template = t ∧ s.Reflects put := Statement.history_reflects t bs
    have owner : s.id = t.id := congrArg Template.id same
    rw [← owner, ← same]
    exact ⟨reflects.exists_values_iff, fun _ => reflects.values_ok,
      fun _ hi within => reflects.values_unbound within hi, reflects.values_pastEnd⟩
  · exact ⟨withBound_of_error he _ l, by rw [queryBound, withBound_of_error he, cursor]; rfl⟩
  · refine ⟨withBound_binding_iff s _ l p, ?_⟩
    rw [← withBound_binding_iff s Session.queryPrepared l p, queryBound, cursor]
    cases (l.withBound .retry s Session.queryPrepared).1 <;> simp [Except.map]
  · exact queryBound_unhindered h (run_schooled (schooled_of_closed rfl))
      (run_sound fun _ hid => (Bool.false_ne_true hid).elim) hv takes

/-- Too many values, then none, then one that another replaces. -/
def corrected : List Binding :=
  [.setAll [.int 1, .int 2], .clear, .setNull 0, .set 0 (.int 7)]

def selectAfter (bs : List Binding) : Statement :=
  (Statement.ofTemplate boundSelect.template).history bs

theorem bound_as_put_corrected :
    let full := selectAfter corrected
    let emptied := selectAfter (corrected.take 2)
    let l := (made fresh.conn.setup {}).run [.request .openSession, .request .prepareStatements]
    (full.values = .ok [.int 7] ∧ Binding.latest (Binding.putSince corrected) 0 = some (.int 7)) ∧
    (emptied.values = .error (.binding (.unbound 1 0 1)) ∧
      l.executeBound emptied = (.error (.binding (.unbound 1 0 1)), l)) ∧
    l.Unhindered full [.int 7] ∧
      ∃ c, (l.queryBound full).1 = .ok (some c) ∧ c.toList = [[.int 7]] ∧ c.rowCount = 1 := by
  obtain ⟨history, refused, asked⟩ := bound_as_put
  have hv : (selectAfter corrected).values = .ok [.int 7] := by rfl
  obtain ⟨_, last⟩ := (history boundSelect.template corrected).2.1 [.int 7] hv
  have missing : (selectAfter (corrected.take 2)).values = .error (.binding (.unbound 1 0 1)) :=
    (history boundSelect.template (corrected.take 2)).2.2.1 0 (by decide) (by simp [corrected,
      Binding.putSince, Binding.isClear]) rfl (fun j hj => by omega)
  intro full emptied l
  have registered : l.conn.registry.get? full.id = some full.template := by
    rw [registry_eq (run_setup _)]
    exact congrArg some (Statement.history_reflects boundSelect.template corrected).1.symm
  have known : ∃ ses, l.conn.session = some ses ∧ ses.prepared.contains full.id = true := by
    have knows : l.conn.session.map (·.prepared.contains full.id) = some true := by decide +kernel
    exact Option.map_eq_some_iff.1 knows
  have uncounted : l.server.counts.toList = [] := by decide +kernel
  have unruled : l.server.rules = [] := by decide +kernel
  have unhindered : l.Unhindered full [.int 7] :=
    { registered := registered
      listed := by decide +kernel
      known := known
      uncounted := by simp only [Keyed.get?, uncounted, List.find?_nil]
      uncharged := fun r hr => by
        rw [unruled] at hr
        cases hr
      shown := by decide +kernel }
  exact ⟨⟨hv, (last 0 (by decide)).symm⟩, ⟨missing, ((refused l emptied).1 _ missing).1⟩, unhindered,
    asked _ _ _ full _ unhindered hv (by decide)⟩

end QueryPool.Link
