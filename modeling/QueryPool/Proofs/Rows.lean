import Mathlib.Data.List.Induction
import Mathlib.Logic.Function.Iterate
import QueryPool.Rows

namespace QueryPool

/-- A table filled row by row is the table of those rows. -/
theorem Table.push_rows (columns : List String) (rows : List Row) :
    rows.foldl Table.push ⟨columns, []⟩ = ⟨columns, rows⟩ := by
  have filled (before : List Row) :
      rows.foldl Table.push ⟨columns, before⟩ = ⟨columns, before ++ rows⟩ := by
    induction rows generalizing before with
    | nil => simp
    | cons r rows ih =>
      rw [List.foldl_cons, Table.push, ih]
      simp
  simpa using filled []

/-- The last place at which a name stands among the columns. -/
def LastColumn (columns : List String) (name : String) (i : Nat) : Prop :=
  columns[i]? = some name ∧ ∀ j, i < j → columns[j]? ≠ some name

theorem lastColumn_concat {columns : List String} {name column : String} {i : Nat} :
    LastColumn (columns ++ [column]) name i ↔
      if column = name then i = columns.length else LastColumn columns name i := by
  have place (j : Nat) : (columns ++ [column])[j]? =
      if j < columns.length then columns[j]?
      else if j = columns.length then some column else none := by
    grind
  simp only [LastColumn, place]
  grind

namespace Cursor

variable {c : Cursor} {t : Table} {k : Nat}

theorem index?_eq_some_iff {name : String} {i : Nat} :
    c.index? name = some i ↔ LastColumn c.columns name i := by
  unfold index?
  -- of two columns of one name the search from the end meets the later one first
  induction c.columns using List.reverseRecOn with
  | nil => simp [LastColumn]
  | append_singleton columns column ih =>
    rw [lastColumn_concat, List.zipIdx_append, List.reverse_append]
    by_cases same : column = name
    · simp [same, eq_comm]
    · simpa [same] using ih

theorem named?_eq_some_iff {name : String} {v : Value} :
    c.named? name = some v ↔ ∃ i, LastColumn c.columns name i ∧ c.get? i = some v := by
  simp only [named?, Option.bind_eq_some_iff, index?_eq_some_iff]

/-- The cursor after `k` moves. -/
def after (c : Cursor) (k : Nat) : Cursor := (fun c => c.next.2)^[k] c

/-- What the first `k` moves answer. -/
def answers (c : Cursor) (k : Nat) : List Bool := (List.range k).map fun j => (c.after j).next.1

/-- Where `k` moves lead from the first row of a table. -/
structure StandsAt (t : Table) (k : Nat) (c : Cursor) : Prop where
  current : c.current = t.rows[k]?.getD []
  rest : c.rest = t.rows.drop (k + 1)
  columns : c.columns = t.columns
  rowCount : c.rowCount = t.rows.length

theorem standsAt_first (h : ofTable? t = some c) : StandsAt t 0 c := by
  obtain ⟨columns, rows⟩ := t
  cases rows with
  | nil => cases h
  | cons r rest =>
    cases h
    exact ⟨rfl, rfl, rfl, rfl⟩

theorem StandsAt.next (h : StandsAt t k c) :
    c.next.1 = decide (k + 1 < t.rows.length) ∧ StandsAt t (k + 1) c.next.2 := by
  have hrest := h.rest
  unfold Cursor.next
  split
  · rename_i hnil
    rw [hnil] at hrest
    have short : t.rows.length ≤ k + 1 := List.drop_eq_nil_iff.mp hrest.symm
    refine ⟨by simpa using short, ?_, ?_, h.columns, h.rowCount⟩
    · simp [short]
    · rw [hnil, List.drop_eq_nil_of_le (by omega)]
  · rename_i r rest hcons
    rw [hcons] at hrest
    have long : k + 1 < t.rows.length := by
      have hlen := congrArg List.length hrest
      simp only [List.length_cons, List.length_drop] at hlen
      omega
    have split := List.drop_eq_getElem_cons long
    rw [split] at hrest
    obtain ⟨hr, hrest⟩ := List.cons.inj hrest
    refine ⟨by simpa using long, ?_, hrest, h.columns, h.rowCount⟩
    simp [hr, long]

theorem StandsAt.after (h : StandsAt t 0 c) (k : Nat) : StandsAt t k (c.after k) := by
  induction k with
  | zero => exact h
  | succ k ih =>
    rw [Cursor.after, Function.iterate_succ_apply']
    exact ih.next.2

theorem StandsAt.answers (h : StandsAt t 0 c) (k : Nat) :
    c.answers k = List.replicate (min k (t.rows.length - 1)) true ++
      List.replicate (k - (t.rows.length - 1)) false := by
  induction k with
  | zero => simp [Cursor.answers]
  | succ k ih =>
    have one := (h.after k).next.1
    rw [Cursor.answers, List.range_succ, List.map_append, ← Cursor.answers, ih]
    simp only [List.map_cons, List.map_nil, one]
    by_cases hk : k + 1 < t.rows.length
    · have inside : min (k + 1) (t.rows.length - 1) = min k (t.rows.length - 1) + 1 := by omega
      have none : k + 1 - (t.rows.length - 1) = 0 := by omega
      have none' : k - (t.rows.length - 1) = 0 := by omega
      simp [hk, inside, none, none', List.replicate_succ']
    · have same : min (k + 1) (t.rows.length - 1) = min k (t.rows.length - 1) := by omega
      have more : k + 1 - (t.rows.length - 1) = k - (t.rows.length - 1) + 1 := by omega
      simp [hk, same, more, List.replicate_succ']

/-- A table without rows has no cursor. Otherwise the cursor stands on row `k` after `k` moves, and
on none once the rows are used up; a move answers whether it found a row; a name finds the value in
its last column if the current row goes that far; and what the cursor says of the table stays. -/
theorem walks_each_row_once (columns : List String) (rows : List Row) :
    let t := rows.foldl Table.push ⟨columns, []⟩
    t = ⟨columns, rows⟩ ∧ (rows = [] → ofTable? t = none) ∧
    (rows ≠ [] → ∃ c, ofTable? t = some c ∧
      (List.range rows.length).map (fun k => (c.after k).current) = rows ∧
      ∀ k, let d := c.after k
        d.current = rows[k]?.getD [] ∧
        c.answers k = List.replicate (min k (rows.length - 1)) true ++
          List.replicate (k - (rows.length - 1)) false ∧
        (∀ i, d.get? i = rows[k]?.bind (·[i]?)) ∧
        (∀ name v, d.named? name = some v ↔
          ∃ i, LastColumn columns name i ∧ rows[k]?.bind (·[i]?) = some v) ∧
        d.rowCount = rows.length ∧ d.columns = columns) := by
  intro t
  have ht : t = ⟨columns, rows⟩ := Table.push_rows columns rows
  refine ⟨ht, ?_, ?_⟩
  · intro none
    rw [ht, none]
    rfl
  · intro some
    have opened : ∃ c, ofTable? t = .some c := by
      rw [ht]
      cases rows with
      | nil => exact (some rfl).elim
      | cons r rest => exact ⟨_, rfl⟩
    obtain ⟨c, hc⟩ := opened
    have stands (k : Nat) : StandsAt ⟨columns, rows⟩ k (c.after k) := by
      rw [← ht]
      exact (standsAt_first hc).after k
    have got (k i : Nat) : (c.after k).get? i = rows[k]?.bind (·[i]?) := by
      rw [get?, (stands k).current]
      cases rows[k]? <;> simp
    refine ⟨c, hc, ?_, ?_⟩
    · apply List.ext_getElem
      · simp
      · intro k _ hk
        simp [(stands k).current, hk]
    · intro k
      refine ⟨(stands k).current, (stands 0).answers k, got k, ?_, (stands k).rowCount,
        (stands k).columns⟩
      intro name v
      rw [named?_eq_some_iff, (stands k).columns]
      simp only [got]

/-- Rows of uneven length, and two columns of one name. -/
def uneven : List Row := [[.int 1, .text "Stormwind", .int 7], [.int 2], [.int 3, .null, .int 9]]

theorem walks_each_row_once_uneven :
    ∃ c, ofTable? ⟨["id", "name", "id"], uneven⟩ = some c ∧
      (List.range 3).map (fun k => (c.after k).current) = uneven ∧
      c.answers 5 = [true, true, false, false, false] ∧
      (c.after 0).named? "id" = some (.int 7) ∧ (c.after 1).named? "id" = none ∧
      (c.after 2).named? "id" = some (.int 9) ∧ (c.after 3).current = [] := by
  obtain ⟨same, -, walked⟩ := walks_each_row_once ["id", "name", "id"] uneven
  obtain ⟨c, opened, whole, each⟩ := walked (by decide)
  rw [same] at opened
  have last : LastColumn ["id", "name", "id"] "id" 2 := by
    refine ⟨rfl, ?_⟩
    intro j hj
    have past : ["id", "name", "id"].length ≤ j := hj
    rw [List.getElem?_eq_none past]
    exact nofun
  refine ⟨c, opened, whole, (each 5).2.1, ?_, ?_, ?_, (each 3).1⟩
  · exact ((each 0).2.2.2.1 "id" (.int 7)).mpr ⟨2, last, rfl⟩
  · cases opened
    rfl
  · exact ((each 2).2.2.2.1 "id" (.int 9)).mpr ⟨2, last, rfl⟩

end Cursor
end QueryPool
