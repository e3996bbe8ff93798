import QueryPool.Proofs.Connection.Coherence
import QueryPool.Proofs.Connection.Table

namespace QueryPool.Link

variable {l m : Link} {e : PoolError} {ses : Session} {id : Nat}

/-- Why statement `id` could not be prepared again, and whether the session knows it all the same. -/
inductive Obstacle (id : Nat) : PoolError → Bool → Prop where
  | unregistered : Obstacle id (.unprepared id) false
  | failed (e : NativeError) : Obstacle id (.database e) false
  /-- the session had prepared it before the counts were compared -/
  | miscounted {slots counted : Nat} (h : counted ≠ slots) :
      Obstacle id (.config (.placeholderCount id slots counted)) true

theorem prepareOne_knows {t : Template} (opened : l.conn.session = some ses) :
    ∃ ses', (l.prepareOne t).2.conn.session = some ses' ∧ ses'.id = ses.id ∧
      match (l.prepareOne t).1 with
      | .ok _ => ∀ i, ses'.prepared.contains i = true ↔ i = t.id ∨ ses.prepared.contains i = true
      | .error e => ∃ known, Obstacle t.id e known ∧
          ∀ i, ses'.prepared.contains i = true ↔
            (i = t.id ∧ known = true) ∨ ses.prepared.contains i = true := by
  have inserted (i : Nat) : (ses.prepared.insert (t.id, t.sql)).contains i = true ↔
      i = t.id ∨ ses.prepared.contains i = true := by
    rw [Keyed.contains_insert, eq_comm]
  rcases l.prepareOne_cases t with ⟨closed, _⟩ | ⟨ses₀, hs, ⟨e, server, _, hp⟩ | ⟨n, _, ⟨_, hp⟩ | ⟨hn, hp⟩⟩⟩
  · cases closed.symm.trans opened
  · cases hs.symm.trans opened
    rw [hp]
    exact ⟨ses, opened, rfl, false, .failed e, fun i => by simp⟩
  · cases hs.symm.trans opened
    rw [hp]
    exact ⟨_, rfl, rfl, inserted⟩
  · cases hs.symm.trans opened
    rw [hp]
    exact ⟨_, rfl, rfl, true, .miscounted hn, fun i => by simpa using inserted i⟩

/-- The statements before the one that fails are prepared, those after it are not tried. -/
theorem prepareAgain_stops {ids : List Nat} (opened : l.conn.session = some ses)
    (h : l.prepareAgain ids = (.error e, m)) :
    ∃ ses' before id after known, m.conn.session = some ses' ∧ ses'.id = ses.id ∧
      ids = before ++ id :: after ∧ Obstacle id e known ∧
      ∀ i, ses'.prepared.contains i = true ↔
        (i ∈ before ∨ (i = id ∧ known = true)) ∨ ses.prepared.contains i = true := by
  induction ids generalizing l ses with
  | nil => cases h
  | cons id ids ih =>
    unfold prepareAgain at h
    split at h
    · cases h
      exact ⟨ses, [], id, ids, false, opened, rfl, rfl, .unregistered, fun i => by simp⟩
    · rename_i t ht
      have hid : t.id = id := Keyed.key_of_get? ht
      obtain ⟨ses₁, opened₁, same₁, knows₁⟩ := prepareOne_knows (t := t) opened
      rw [hid] at knows₁
      rcases hp : l.prepareOne t with ⟨err | u, k⟩
      · simp only [hp] at h opened₁ knows₁
        cases h
        obtain ⟨known, obstacle, knows⟩ := knows₁
        exact ⟨ses₁, [], id, ids, known, opened₁, same₁, rfl, obstacle, by simpa using knows⟩
      · simp only [hp] at h opened₁ knows₁
        obtain ⟨ses', before, j, after, known, opened', same, rfl, obstacle, knows⟩ := ih opened₁ h
        refine ⟨ses', id :: before, j, after, known, opened', same.trans same₁, rfl, obstacle, ?_⟩
        intro i
        rw [knows i, knows₁ i, List.mem_cons]
        grind

/-- A failed open was refused, and leaves the connection with the session it had; or it leaves a new
session, which knows the statements of the table up to the first that met an obstacle. The table
names the others all the same. -/
theorem failed_open_leaves (h : l.openSession = (.error e, m)) :
    (∀ i, m.conn.isPrepared i = l.conn.isPrepared i) ∧
    ((0 < l.server.refusals ∧ m.conn = l.conn) ∨
      (l.server.refusals = 0 ∧ ∃ ses before id after known,
        m.conn.session = some ses ∧ ses.id = l.server.sessions + 1 ∧
        l.conn.prepared.keys = before ++ id :: after ∧ Obstacle id e known ∧
        (∀ i, ses.prepared.contains i = true ↔ i ∈ before ∨ (i = id ∧ known = true)) ∧
        ∀ i, (m.conn.isPrepared i = true ∧ ses.prepared.contains i = false) ↔
          i ∈ after ∨ (i = id ∧ known = false))) := by
  have listed : ∀ i, m.conn.isPrepared i = l.conn.isPrepared i := by
    have alike := l.openSession_alike
    rw [h] at alike
    exact alike.table
  refine ⟨listed, ?_⟩
  rcases l.openSession_cases with ⟨err, n, refused, ho⟩ | ⟨accepted, ho⟩
  · rw [ho] at h
    cases h
    exact .inl ⟨by omega, rfl⟩
  · rw [ho] at h
    obtain ⟨ses, before, id, after, known, opened, same, keys, obstacle, knows⟩ :=
      prepareAgain_stops (l := l.renewed) rfl h
    have knows (i : Nat) : ses.prepared.contains i = true ↔ i ∈ before ∨ (i = id ∧ known = true) := by
      rw [knows i]
      exact or_iff_left (by simp [Keyed.contains_iff])
    refine .inr ⟨accepted, ses, before, id, after, known, opened, same, keys, obstacle, knows, ?_⟩
    intro i
    -- no id stands in the table twice
    have once := l.conn.prepared.nodup_keys
    rw [keys, List.nodup_append] at once
    have mem : m.conn.isPrepared i = true ↔ i ∈ before ∨ i = id ∨ i ∈ after := by
      rw [listed, Connection.isPrepared, ← Keyed.mem_keys, keys, List.mem_append, List.mem_cons]
    rw [mem, ← Bool.not_eq_true, knows i]
    obtain ⟨_, tail, apart⟩ := once
    rw [List.nodup_cons] at tail
    constructor
    · rintro ⟨hb | rfl | ha, unknown⟩
      · exact (unknown (.inl hb)).elim
      · exact .inr ⟨rfl, by simpa using fun hk => unknown (.inr ⟨rfl, hk⟩)⟩
      · exact .inl ha
    · rintro (ha | ⟨rfl, hk⟩)
      · refine ⟨.inr (.inr ha), ?_⟩
        rintro (hb | ⟨rfl, _⟩)
        · exact apart i hb i (List.mem_cons_of_mem _ ha) rfl
        · exact tail.1 ha
      · refine ⟨.inr (.inl rfl), ?_⟩
        rintro (hb | ⟨_, hk'⟩)
        · exact apart i hb i List.mem_cons_self rfl
        · cases hk.symm.trans hk'

/-- The statement was prepared on a session that is gone, and the next preparation fails. -/
def spoiled : List Step :=
  [.request .openSession, .request .prepareStatements, .request .close,
    .direction (.addRule ⟨"PREPARE", 1105, some 1⟩)]

/-- The new session stays though it refuses the statement that the table names. -/
theorem failed_open_leaves_spoiled :
    let l := fresh.run spoiled
    let m := l.openSession.2
    l.openSession = (.error (.database ⟨1105, "injected failure for 'PREPARE SELECT ?'"⟩), m) ∧
      m.conn.isPrepared 1 = true ∧
      (∃ ses, m.conn.session = some ses ∧ ses.id = 2 ∧ ses.prepared.contains 1 = false) ∧
      (m.executeBound boundSelect).1 = .error (.database (Session.notPrepared 1 2)) := by
  intro l m
  have failed : l.openSession =
      (.error (.database ⟨1105, "injected failure for 'PREPARE SELECT ?'"⟩), m) :=
    Prod.ext (by rfl) rfl
  have listed : m.conn.isPrepared 1 = true := by decide +kernel
  obtain ⟨_, ⟨refused, _⟩ | ⟨_, ses, before, id, after, known, opened, new, keys, obstacle, knows, _⟩⟩ :=
    failed_open_leaves failed
  · exact absurd refused (by decide +kernel)
  · have one : before ++ id :: after = [1] := keys.symm.trans (by decide +kernel)
    cases obstacle
    have first : before = [] := by
      cases before with
      | nil => rfl
      | cons i before => simp at one
    refine ⟨failed, listed, ⟨ses, opened, new.trans (by decide +kernel), ?_⟩, by rfl⟩
    rw [← Bool.not_eq_true, knows]
    simp [first]

end QueryPool.Link
