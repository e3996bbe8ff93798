import QueryPool.Proofs.Connection.Coherence
import QueryPool.Proofs.Server.Calm
import QueryPool.Proofs.Statement.Segments

namespace QueryPool

theorem Template.marks_eq {t : Template} {segs : List Segment} (h : Splits t.sql.toList segs) :
    Session.countMarks t.sql = t.slots + (segs.flatMap (·.body)).count '?' := by
  rw [Session.countMarks, h.marks, Template.slots, h.placeholders]

theorem Template.slots_le_marks (t : Template) : t.slots ≤ Session.countMarks t.sql := by
  obtain ⟨segs, h⟩ := Splits.exists_splits t.sql.toList
  rw [t.marks_eq h]
  exact Nat.le_add_right _ _

/-- The two counts agree if every question mark is a placeholder. -/
theorem Template.marks_eq_slots_iff (t : Template) : Session.countMarks t.sql = t.slots ↔
    ∀ segs, Splits t.sql.toList segs → ∀ seg ∈ segs, '?' ∉ seg.body := by
  obtain ⟨segs, h⟩ := Splits.exists_splits t.sql.toList
  have none : Session.countMarks t.sql = t.slots ↔ ∀ seg ∈ segs, '?' ∉ seg.body := by
    rw [t.marks_eq h, Nat.add_eq_left, List.count_eq_zero]
    simp only [List.mem_flatMap, not_exists, not_and]
  rw [none]
  constructor
  · intro free segs' h'
    rwa [← h.unique h']
  · exact fun free => free segs h

/-- No rule of the script is live, and no count is set. -/
structure Server.Unscripted (s : Server) : Prop where
  quiet : ∀ r ∈ s.rules, r.isLive = false
  uncounted : ∀ id, s.counts.get? id = none

namespace Link

variable {l : Link} {t : Template}

/-- Without a script it is the two counts that decide about a preparation. -/
theorem prepareOne_unscripted (opened : l.conn.isOpen = true) (script : l.server.Unscripted) :
    ∃ r m, l.prepareOne t = (r, m) ∧ (r = .ok () ↔ Session.countMarks t.sql = t.slots) ∧
      m.conn.isOpen = true ∧ m.server = l.server := by
  obtain ⟨ses, hs⟩ := Option.isSome_iff_exists.1 opened
  have hp : Session.prepare t.id t.sql ses l.server = (.ok (Session.countMarks t.sql),
      { ses with prepared := ses.prepared.insert (t.id, t.sql) }, l.server) := by
    simp only [Session.prepare, Server.check, Rule.charge_of_quiet script.quiet, script.uncounted,
      Option.elim_none]
  by_cases agree : Session.countMarks t.sql = t.slots
  · simp only [prepareOne, hs, hp, if_pos agree]
    exact ⟨_, _, rfl, by simp [agree], rfl, rfl⟩
  · simp only [prepareOne, hs, hp, if_neg agree]
    exact ⟨_, _, rfl, by simp [agree], rfl, rfl⟩

theorem prepareAll_unscripted (opened : l.conn.isOpen = true) (script : l.server.Unscripted)
    (ts : List Template) :
    (l.prepareAll ts).1 = .ok () ↔ ∀ t ∈ ts, Session.countMarks t.sql = t.slots := by
  induction ts generalizing l with
  | nil => simp [prepareAll]
  | cons t ts ih =>
    obtain ⟨r, m, hm, decides, openedNow, same⟩ := prepareOne_unscripted (t := t) opened script
    rw [List.forall_mem_cons, ← decides]
    cases r with
    | ok u =>
      have rest := ih openedNow (same ▸ script)
      simp only [prepareAll, hm, rest, true_and]
    | error e => simp [prepareAll, hm]

/-- Every text splits into segments in exactly one way, and a template has as many slots as the
split has single question marks, which are never more than the question marks of the text. On an
open connection and a server without a script the registry can be prepared if and only if no
template for this side has a question mark in a quotation or a comment. -/
theorem prepared_iff_nothing_covered :
    (∀ s : List Char, ∃ segs, Splits s segs ∧ ∀ segs', Splits s segs' → segs' = segs) ∧
    (∀ (t : Template) (segs : List Segment), Splits t.sql.toList segs →
      t.slots = segs.count (.bare '?') ∧ t.slots ≤ t.sql.toList.count '?') ∧
    ∀ l : Link, l.conn.isOpen = true → l.server.Unscripted →
      (l.prepareStatements.1 = .ok () ↔
        ∀ t ∈ l.conn.registry.toList, t.audience.allows l.conn.side = true →
          ∀ segs, Splits t.sql.toList segs → ∀ seg ∈ segs, '?' ∉ seg.body) := by
  refine ⟨fun s => ?_, fun t segs h => ⟨h.placeholders, t.slots_le_marks⟩,
    fun l opened script => ?_⟩
  · obtain ⟨segs, h⟩ := Splits.exists_splits s
    exact ⟨segs, h, fun segs' h' => h'.unique h⟩
  · unfold prepareStatements
    rw [prepareAll_unscripted opened script]
    simp only [Registry.forSide, List.mem_filter, and_imp, Template.marks_eq_slots_iff]

/-- A connection with a new session, whose registry has one statement. -/
def registering (sql : String) : Link :=
  { fresh with conn := { fresh.conn with
      registry := ({} : Registry).insert ⟨1, sql, .both⟩, session := some { id := 1 } } }

/-- A quotation that holds an escaped quote and a question mark, after one placeholder. -/
def asksInQuotes : Template := ⟨1, "?'\\'?'", .both⟩

/-- A comment may say what it likes, as long as it asks nothing. -/
theorem prepared_iff_nothing_covered_comment :
    let segs : List Segment := [.bare '?', .covered (.quote '\'' rfl) ['\\', '\'', '?'] true]
    let told := registering "SELECT ? -- why\n"
    let asked := registering "SELECT ? -- why?\n"
    (Splits asksInQuotes.sql.toList segs ∧ asksInQuotes.slots = segs.count (.bare '?') ∧
      asksInQuotes.slots ≤ asksInQuotes.sql.toList.count '?') ∧
    (told.conn.isOpen = true ∧ told.server.Unscripted ∧ told.prepareStatements.1 = .ok () ∧
      ∀ segs, Splits "SELECT ? -- why\n".toList segs → ∀ seg ∈ segs, '?' ∉ seg.body) ∧
    asked.conn.isOpen = true ∧ asked.server.Unscripted ∧
      asked.prepareStatements.1 = .error (.config (.placeholderCount 1 1 2)) ∧
      ¬ ∀ segs, Splits "SELECT ? -- why?\n".toList segs → ∀ seg ∈ segs, '?' ∉ seg.body := by
  intro segs told asked
  have splits : Splits asksInQuotes.sql.toList segs := by
    have first : (Segment.bare '?').Fits ['\'', '\\', '\'', '?', '\''] := by
      intro k opens
      cases k with
      | quote q real =>
        obtain rfl : q = '?' := (List.cons_prefix_cons.1 opens).1
        cases real
      | line | block => cases (List.cons_prefix_cons.1 opens).1
    have second : (Segment.covered (.quote '\'' rfl) ['\\', '\'', '?'] true).Fits [] :=
      .escaped rfl (.plain (by decide) (by decide) .nil)
    exact .cons first (.cons second .nil)
  have script (sql : String) : (registering sql).server.Unscripted :=
    ⟨fun r hr => (by cases hr), fun _ => rfl⟩
  obtain ⟨_, counted, prepared⟩ := prepared_iff_nothing_covered
  have taken : told.prepareStatements.1 = .ok () := by rfl
  have refused : asked.prepareStatements.1 = .error (.config (.placeholderCount 1 1 2)) := by rfl
  refine ⟨⟨splits, counted asksInQuotes segs splits⟩, ⟨rfl, script _, taken, ?_⟩, rfl, script _,
    refused, fun free => ?_⟩
  · exact (prepared told rfl (script _)).1 taken _ (List.mem_singleton.2 rfl) rfl
  · have well := (prepared asked rfl (script _)).2 fun t ht _ => by
      rw [List.mem_singleton.1 ht]
      exact free
    rw [refused] at well
    cases well

end Link
end QueryPool
