import QueryPool.Proofs.Connection.Steady

namespace QueryPool

/-- A registry gives a side every template that is for it. -/
theorem Registry.mem_forSide {r : Registry} {side : Side} {t : Template} :
    t ∈ r.forSide side ↔ r.get? t.id = some t ∧ t.audience.allows side = true := by
  have hmem : t ∈ r.toList ↔ r.get? t.id = some t :=
    ⟨Keyed.get?_of_mem, fun h => List.mem_of_find?_eq_some h⟩
  rw [forSide, List.mem_filter, hmem]

namespace Link

variable {l m l' : Link} {id : Nat} {t : Template}

/-- `m` is made as `l` is and knows the same statements. -/
structure Alike (l m : Link) : Prop where
  setup : m.conn.setup = l.conn.setup
  table : ∀ id, m.conn.isPrepared id = l.conn.isPrepared id

theorem Alike.refl (l : Link) : Alike l l := ⟨rfl, fun _ => rfl⟩

theorem Alike.trans (h : Alike l m) (h' : Alike m l') : Alike l l' :=
  ⟨h'.setup.trans h.setup, fun id => (h'.table id).trans (h.table id)⟩

theorem prepareOne_ok (h : l.prepareOne t = (.ok (), m)) :
    m.conn.isPrepared id = true ↔ t.id = id ∨ l.conn.isPrepared id = true := by
  rcases l.prepareOne_cases t with ⟨_, hp⟩ | ⟨ses, _, ⟨e, server, _, hp⟩ | ⟨n, _, ⟨_, hp⟩ | ⟨_, hp⟩⟩⟩
  · rw [hp] at h
    cases h
  · rw [hp] at h
    cases h
  · rw [hp] at h
    cases h
    exact Keyed.contains_insert
  · rw [hp] at h
    cases h

theorem prepareOne_error {e : PoolError} (h : l.prepareOne t = (.error e, m)) :
    m.conn.prepared = l.conn.prepared := by
  rcases l.prepareOne_cases t with ⟨_, hp⟩ | ⟨ses, _, ⟨e, server, _, hp⟩ | ⟨n, _, ⟨_, hp⟩ | ⟨_, hp⟩⟩⟩
  · rw [hp] at h
    cases h
    rfl
  · rw [hp] at h
    cases h
    rfl
  · rw [hp] at h
    cases h
  · rw [hp] at h
    cases h
    rfl

/-- A statement that is known already makes no difference to the set. -/
theorem prepareOne_alike (listed : l.conn.isPrepared t.id = true) : Alike l (l.prepareOne t).2 := by
  refine ⟨(l.prepareOne_kept t).setup, fun id => ?_⟩
  rcases h : l.prepareOne t with ⟨e | u, m⟩
  · rw [Connection.isPrepared, prepareOne_error h]
    rfl
  · rw [Bool.eq_iff_iff, prepareOne_ok h]
    constructor
    · rintro (rfl | hid)
      · exact listed
      · exact hid
    · exact .inr

theorem prepareAgain_alike {ids : List Nat} (listed : ∀ id ∈ ids, l.conn.isPrepared id = true) :
    Alike l (l.prepareAgain ids).2 := by
  induction ids generalizing l with
  | nil => exact .refl l
  | cons id ids ih =>
    unfold prepareAgain
    split
    · exact .refl l
    · rename_i t ht
      have hid : t.id = id := Keyed.key_of_get? ht
      have first : Alike l (l.prepareOne t).2 := prepareOne_alike (by rw [hid]; simp [listed])
      split
      · rename_i m hm
        rw [hm] at first
        refine first.trans (ih fun id' hid' => ?_)
        rw [first.table]
        exact listed id' (by simp [hid'])
      · exact first

theorem openSession_alike (l : Link) : Alike l l.openSession.2 := by
  rcases l.openSession_cases with ⟨e, n, _, ho⟩ | ⟨_, ho⟩
  · rw [ho]
    exact ⟨rfl, fun _ => rfl⟩
  · rw [ho]
    have again : Alike l.renewed (l.renewed.prepareAgain l.conn.prepared.keys).2 :=
      prepareAgain_alike fun id hid => Keyed.mem_keys.1 hid
    exact ⟨again.setup, again.table⟩

/-- No call but a preparation adds a statement or takes one out. -/
theorem enduring_alike (l : Link) : Enduring (Alike l) where
  submits _ h hl := by
    refine ⟨h.setup.trans hl.setup, fun id => ?_⟩
    rw [h.conn]
    exact hl.table id
  reconnects h hl := h.keeps (fun _ _ _ _ _ hl => ⟨hl.setup, hl.table⟩)
    (fun m hm => hm.trans m.openSession_alike) hl
  givesUp h hl := h.keeps (fun _ _ _ _ _ hl => ⟨hl.setup, hl.table⟩)
    (fun m hm => hm.trans m.openSession_alike) hl

theorem execute_alike (sql : String) (l : Link) : Alike l (l.execute sql).2 :=
  (enduring_alike l).call (Session.execute_runs sql).plain .retry (.refl l)

theorem query_alike (sql : String) (l : Link) : Alike l (l.query sql).2 :=
  (enduring_alike l).call (Session.query_runs sql).plain .retry (.refl l)

theorem executeBound_alike (s : Statement) (l : Link) : Alike l (l.executeBound s).2 :=
  (enduring_alike l).withBound (fun id vs => (Session.executePrepared_runs id vs).plain) .retry s
    (.refl l)

theorem queryBound_alike (s : Statement) (l : Link) : Alike l (l.queryBound s).2 :=
  (enduring_alike l).withBound (fun id vs => (Session.queryPrepared_runs id vs).plain) .retry s
    (.refl l)

theorem ping_alike (l : Link) : Alike l l.ping.2 :=
  (enduring_alike l).call Session.ping_plain .retry (.refl l)

theorem commit_alike (t : Transaction) (b : Budget) (l : Link) : Alike l (l.commit t b).1.2 :=
  (enduring_alike l).commit t b (.refl l)

theorem prepareAll_ok {ts : List Template} (h : l.prepareAll ts = (.ok (), m)) :
    m.conn.isPrepared id = true ↔ (∃ t ∈ ts, t.id = id) ∨ l.conn.isPrepared id = true := by
  induction ts generalizing l with
  | nil =>
    cases h
    simp
  | cons t ts ih =>
    unfold prepareAll at h
    split at h
    · rename_i k hk
      rw [ih h, prepareOne_ok hk]
      simp only [List.mem_cons, exists_eq_or_imp]
      rw [or_left_comm, or_assoc]
    · rename_i failed
      exact (failed _ h).elim

/-- A preparation that goes well adds the ids that the registry has for the side, and no other. -/
theorem prepareStatements_ok (h : l.prepareStatements = (.ok (), m)) :
    m.conn.isPrepared id = true ↔
      (∃ t, l.conn.registry.get? id = some t ∧ t.audience.allows l.conn.side = true) ∨
        l.conn.isPrepared id = true := by
  have listed : (∃ t ∈ l.conn.registry.forSide l.conn.side, t.id = id) ↔
      ∃ t, l.conn.registry.get? id = some t ∧ t.audience.allows l.conn.side = true := by
    constructor
    · rintro ⟨t, ht, rfl⟩
      exact ⟨t, Registry.mem_forSide.1 ht⟩
    · rintro ⟨t, ht, allowed⟩
      have hid : t.id = id := Keyed.key_of_get? ht
      subst hid
      exact ⟨t, Registry.mem_forSide.2 ⟨ht, allowed⟩, rfl⟩
  rw [← listed]
  exact prepareAll_ok h

end Link
end QueryPool
