import QueryPool.Proofs.Json.Tree
import QueryPool.Proofs.Timestamp
import QueryPool.Proofs.Value
import QueryPool.Sqlite.Session

namespace QueryPool

namespace Value

/-- An unsigned number that no signed 64-bit word holds. -/
def oversized : Value → Bool
  | uint n => Int64.maxValue.toUInt64 < n
  | _ => false

def isNaN : Value → Bool
  | float x => x.isNaN
  | _ => false

/-- The view of the first value's kind finds its payload in the second. A timestamp is found with its
leap second carried, so as it was if that stands at the end of its minute; a document is found again
if it has no reals and a reader goes as deep as it. -/
def ReadsAs : Value → Value → Prop
  | int n, v => v.toInt? = some n
  | uint n, v => v.toUInt? = some n
  | float x, v => v.toFloat? = some x
  | text s, v => v.toText? = some s
  | bool b, v => v.toBool? = some b
  | timestamp t, v => v.toTimestamp? = some t.carried ∧
    (t.nanos < 1_000_000_000 ∨ t.second = 59 → v.toTimestamp? = some t)
  | null, v => v.isNull = true
  | json d, v => d.tree.integral → d.tree.depth ≤ Json.maxDepth → v.toJson? = some d
  | blob bytes, v => v.toBlob? = some bytes

end Value

namespace Sqlite

theorem not_negative_of_fits {n : UInt64} (h : n ≤ Int64.maxValue.toUInt64) : 0 ≤ n.toInt64 := by
  rw [Int64.le_iff_toInt_le, Value.toInt_toInt64 h]
  exact Int.natCast_nonneg _

variable {v : Value} {vs : List Value}

theorem Cell.ofValue_ok (h : v.oversized = false) : ∃ c, Cell.ofValue v = .ok c := by
  cases v with
  | uint n =>
    have fits : n ≤ Int64.maxValue.toUInt64 := by simpa [Value.oversized] using h
    exact ⟨_, if_pos fits⟩
  | _ => exact ⟨_, rfl⟩

theorem Cell.ofValue_oversized (h : v.oversized = true) :
    ∃ n, v = .uint n ∧ Cell.ofValue v =
      .error ⟨1264, s!"unsigned value {n.toNat} does not fit a SQLite integer"⟩ := by
  cases v with
  | uint n =>
    have large : ¬n ≤ Int64.maxValue.toUInt64 := by simpa [Value.oversized] using h
    exact ⟨n, rfl, if_neg large⟩
  | _ => cases h

/-- Only what is no number becomes a cell that is no number. -/
theorem Cell.ofValue_isNaN {c : Cell} (h : Cell.ofValue v = .ok c) : c.isNaN = v.isNaN := by
  cases v with
  | uint n =>
    rw [Cell.ofValue] at h
    split at h
    · cases h
      rfl
    · cases h
  | _ =>
    cases h
    rfl

/-- The cell of a value, seen as the kind of the value, is what was bound. -/
theorem Cell.reads_back {c : Cell} (h : Cell.ofValue v = .ok c) : v.ReadsAs c.toValue := by
  cases v with
  | int n =>
    cases h
    rfl
  | uint n =>
    rw [Cell.ofValue] at h
    split at h
    · next fits =>
      cases h
      exact (if_pos (not_negative_of_fits fits)).trans (congrArg some (UInt64.toUInt64_toInt64 n))
    · cases h
  | float x =>
    cases h
    rfl
  | text s =>
    cases h
    rfl
  | bool b =>
    cases h
    cases b <;> rfl
  | timestamp t =>
    cases h
    have found : (Value.text t.text).toTimestamp? = some t.carried := Timestamp.ofText?_text t
    exact ⟨found, fun kept => found.trans (congrArg some (Timestamp.carried_eq_self kept))⟩
  | null =>
    cases h
    rfl
  | json d =>
    cases h
    intro integral shallow
    exact (Json.Document.ofText?_text d integral).trans (if_pos shallow)
  | blob bytes =>
    cases h
    rfl

theorem Cell.ofValues_cons (v : Value) (vs : List Value) :
    Cell.ofValues (v :: vs) = do return (← Cell.ofValue v) :: (← Cell.ofValues vs) :=
  List.mapM_cons

theorem Cell.ofValues_ok (h : ∀ v ∈ vs, v.oversized = false) :
    ∃ cells, Cell.ofValues vs = .ok cells ∧ cells.length = vs.length ∧
      ∀ (i : Nat) (v : Value), vs[i]? = some v →
        ∃ c, cells[i]? = some c ∧ Cell.ofValue v = .ok c := by
  induction vs with
  | nil => exact ⟨[], rfl, rfl, by simp⟩
  | cons v vs ih =>
    obtain ⟨c, hc⟩ := Cell.ofValue_ok (h v List.mem_cons_self)
    obtain ⟨cells, hcells, length, each⟩ := ih fun v hv => h v (List.mem_cons_of_mem _ hv)
    refine ⟨c :: cells, ?_, by simp [length], ?_⟩
    · rw [Cell.ofValues_cons, hc, hcells]
      rfl
    · intro i w hw
      cases i with
      | zero =>
        cases hw
        exact ⟨c, rfl, hc⟩
      | succ i => exact each i w hw

/-- The first value that is too large is the one that is reported. -/
theorem Cell.ofValues_oversized (h : ∃ v ∈ vs, v.oversized = true) :
    ∃ n, vs.find? Value.oversized = some (.uint n) ∧ Cell.ofValues vs =
      .error ⟨1264, s!"unsigned value {n.toNat} does not fit a SQLite integer"⟩ := by
  induction vs with
  | nil => simp at h
  | cons v vs ih =>
    cases large : v.oversized with
    | true =>
      obtain ⟨n, hv, he⟩ := Cell.ofValue_oversized large
      refine ⟨n, ?_, ?_⟩
      · rw [List.find?_cons_of_pos large, hv]
      · rw [Cell.ofValues_cons, he]
        rfl
    | false =>
      obtain ⟨c, hc⟩ := Cell.ofValue_ok large
      obtain ⟨n, hfind, he⟩ := ih (by simpa [large] using h)
      refine ⟨n, ?_, ?_⟩
      · rw [List.find?_cons_of_neg (by simp [large]), hfind]
      · rw [Cell.ofValues_cons, hc, he]
        rfl

/-- The engine takes statements of up to so many placeholders and gives back what was bound to them;
of a real that is no number this is not asked. -/
structure Engine.Echoes (engine : Engine) (columns : Nat) : Prop where
  takes : ∀ n, 0 < n → n ≤ columns → engine.refusal? n = none
  echoes : ∀ c : Cell, c.isNaN = false → engine.echo c = c

namespace Session

variable {engine : Engine} {columns : Nat}

/-- A statement of as many placeholders as the engine gives columns is prepared under its id. -/
theorem prepare_ok (he : engine.Echoes columns) (s : Session) (id : Nat) {marks : Nat}
    (hne : 0 < marks) (fits : marks ≤ columns) :
    ∃ t, s.prepare engine id marks = (.ok marks, t) ∧ t.prepared.get? id = some (id, marks) := by
  refine ⟨{ prepared := s.prepared.insert (id, marks) }, ?_, ?_⟩
  · rw [prepare, he.takes marks hne fits]
  · rw [Keyed.get?_insert, if_pos rfl]

/-- Whatever is bound to the placeholders of a statement is given back at its place, a leap second
that does not end its minute as the second after it, unless a value does not fit a signed word: then
the first such value is reported and there are no rows. -/
theorem gives_back_what_is_bound (he : engine.Echoes columns) (s : Session) (id : Nat)
    (hne : vs ≠ []) (fits : vs.length ≤ columns) :
    ∃ t, s.prepare engine id vs.length = (.ok vs.length, t) ∧
      ((∀ v ∈ vs, v.oversized = false ∧ v.isNaN = false) →
        ∃ row, t.queryPrepared engine id vs = .ok [row] ∧ row.length = vs.length ∧
          ∀ (i : Nat) (v : Value), vs[i]? = some v → ∃ w, row[i]? = some w ∧ v.ReadsAs w) ∧
      ((∃ v ∈ vs, v.oversized = true) →
        ∃ n e, vs.find? Value.oversized = some (.uint n) ∧ t.queryPrepared engine id vs = .error e ∧
          e.code = 1264 ∧ e.message = s!"unsigned value {n.toNat} does not fit a SQLite integer" ∧
          (PoolError.database e).kind? = some .data ∧
          (PoolError.database e).isFatal = false) := by
  obtain ⟨t, prepared, found⟩ := s.prepare_ok he id (List.length_pos_iff.mpr hne) fits
  refine ⟨t, prepared, ?_, ?_⟩
  · intro fit
    obtain ⟨cells, bound, length, each⟩ := Cell.ofValues_ok fun v hv => (fit v hv).1
    refine ⟨cells.map fun c => (engine.echo c).toValue, ?_, by simp [length], ?_⟩
    · simp only [queryPrepared, found, bound, length, ↓reduceIte]
    · intro i v hv
      obtain ⟨c, hc, cell⟩ := each i v hv
      have number : c.isNaN = false :=
        (Cell.ofValue_isNaN cell).trans (fit v (List.mem_of_getElem? hv)).2
      refine ⟨(engine.echo c).toValue, by simp [hc], ?_⟩
      rw [he.echoes c number]
      exact Cell.reads_back cell
  · intro large
    obtain ⟨n, first, refused⟩ := Cell.ofValues_oversized large
    have report : t.queryPrepared engine id vs =
        .error ⟨1264, s!"unsigned value {n.toNat} does not fit a SQLite integer"⟩ := by
      simp only [queryPrepared, found, refused]
    exact ⟨n, _, first, report, rfl, rfl, rfl, rfl⟩

/-- An engine with room for two thousand columns, which gives what is no number back as null. -/
def stock : Engine where
  refusal? n :=
    if n = 0 then some (.other "incomplete input")
    else if 2000 < n then some (.other "too many columns in result set") else none
  echo c := if c.isNaN then .null else c

theorem stock_echoes : stock.Echoes 2000 where
  takes _ hn fits := (if_neg (Nat.ne_of_gt hn)).trans (if_neg (Nat.not_lt.mpr fits))
  echoes _ number := if_neg (Bool.eq_false_iff.mp number)

/-- A value of every kind: the largest unsigned number that fits, a leap second before the first
year, and a document with containers, escapes and both ends of the integers. -/
def everyKind : List Value :=
  [.int (-1), .uint 9223372036854775807, .float 2.5, .text "it's", .bool true,
    .timestamp ⟨-44, 3, 15, 23, 59, 59, 1_500_000_000, by decide, by decide⟩, .null,
    .json ⟨.object [("a\n", .array [.null, .number (.integer (-9223372036854775808))]),
      ("b", .number (.integer 18446744073709551615))], by decide⟩,
    .blob [0xDE, 0]]

theorem gives_back_what_is_bound_every_kind :
    stock.Echoes 2000 ∧
    (∃ t row, ({} : Session).prepare stock 7 9 = (.ok 9, t) ∧
      t.queryPrepared stock 7 everyKind = .ok [row] ∧
      row.length = 9 ∧ ∀ (i : Nat) (v : Value), everyKind[i]? = some v →
        ∃ w, row[i]? = some w ∧ v.ReadsAs w) ∧
    ∃ t e, ({} : Session).prepare stock 7 11 = (.ok 11, t) ∧
      t.queryPrepared stock 7 (everyKind ++ [.uint 9223372036854775808, .uint 9223372036854775809]) =
        .error e ∧
      e.code = 1264 ∧ (PoolError.database e).kind? = some .data ∧
      e.message = "unsigned value 9223372036854775808 does not fit a SQLite integer" := by
  refine ⟨stock_echoes, ?_, ?_⟩
  · obtain ⟨t, prepared, back, -⟩ :=
      @gives_back_what_is_bound everyKind stock 2000 stock_echoes {} 7 (by decide) (by decide)
    obtain ⟨row, found, length, each⟩ := back (by decide)
    exact ⟨t, row, prepared, found, length, each⟩
  · obtain ⟨t, prepared, -, refuse⟩ := @gives_back_what_is_bound
      (everyKind ++ [.uint 9223372036854775808, .uint 9223372036854775809]) stock 2000 stock_echoes
      {} 7 (by decide) (by decide)
    obtain ⟨n, e, first, refused, code, message, kind, -⟩ := refuse (by decide)
    have found : List.find? Value.oversized
        (everyKind ++ [.uint 9223372036854775808, .uint 9223372036854775809]) =
          some (.uint 9223372036854775808) := rfl
    rw [found] at first
    cases first
    exact ⟨t, e, prepared, refused, code, kind, message⟩

/-- Four seconds past a minute, with a third of a leap second. -/
def midMinute : Timestamp := ⟨2012, 6, 30, 23, 56, 4, 1_333_333_333, by decide, by decide⟩

/-- A leap second within a minute does not come back as it was bound: its text is that of the second
after it. -/
theorem leap_second_within_minute_not_given_back :
    ∃ (t : Session) (w : Timestamp),
      ({} : Session).prepare stock 7 1 = (.ok 1, t) ∧
      t.queryPrepared stock 7 [.timestamp midMinute] =
        .ok [[.text "2012-06-30 23:56:05.333333333"]] ∧
      (Value.text "2012-06-30 23:56:05.333333333").toTimestamp? = some w ∧
      (w.second, w.nanos) = (5, 333_333_333) ∧ w ≠ midMinute := by
  have written : midMinute.text = "2012-06-30 23:56:05.333333333" := by decide
  have read := Timestamp.ofText?_text midMinute
  rw [written] at read
  refine ⟨_, midMinute.carried, rfl, ?_, read, rfl, ?_⟩
  · rw [← written]
    rfl
  · decide

end Session
end Sqlite
end QueryPool
