import QueryPool.Proofs.Pool.Ledger

namespace QueryPool

/-- What asking leaves; a place without a query asks nothing. -/
def Link.ask (l : Link) (q : Option Statement) : Link := q.elim l fun s => (l.queryBound s).2

/-- The queries that are there, asked one after the other. -/
def Link.askAll (l : Link) (qs : List (Option Statement)) : Link := qs.foldl ask l

namespace Batch

/-- What becomes of a batch between its making and its end; it may run on a connection many times. -/
inductive Use where
  | resize (n : Nat)
  | setQuery (i : Nat) (s : Statement)
  | takeResult (i : Nat)
  | run (l : Link)

def use (b : Batch) : Use → Batch
  | .resize n => b.resize n
  | .setQuery i s => (b.setQuery i s).2
  | .takeResult i => (b.takeResult i).2
  | .run l => (b.run l).2.1

def ofUses (us : List Use) : Batch := us.foldl use {}

/-- What the query at a place is answered when those before it have been asked. -/
def answer? (qs : List (Option Statement)) (l : Link) (i : Nat) :
    Option (Except PoolError (Option Cursor)) :=
  qs[i]?.join.map fun s => ((l.askAll (qs.take i)).queryBound s).1

/-- What a place holds afterwards: the rows of its query, if there are any, or what it held before
if it has no query. -/
def placed (a : Option (Except PoolError (Option Cursor))) (old : Option Cursor) : Option Cursor :=
  (a.map fun r => r.toOption.join).getD old

/-- No query before place `n` ends fatally. -/
def Survives (qs : List (Option Statement)) (l : Link) (n : Nat) : Prop :=
  ∀ j < n, ∀ e, answer? qs l j = some (.error e) → e.isFatal = false

/-- Each place for a query has a place for its result. -/
def Paired (b : Batch) : Prop := b.queries.length = b.results.length

variable {q : Option Statement} {qs : List (Option Statement)} {r : Option Cursor}
  {rs : List (Option Cursor)} {l : Link} {e : PoolError} {i : Nat} {b : Batch}

theorem answer?_zero : answer? (q :: qs) l 0 = q.map fun s => (l.queryBound s).1 := rfl

theorem answer?_succ : answer? (q :: qs) l (i + 1) = answer? qs (l.ask q) i := rfl

theorem Survives.tail {n : Nat} (h : Survives (q :: qs) l (n + 1)) : Survives qs (l.ask q) n :=
  fun j hj e he => h (j + 1) (by omega) e he

theorem runQueries_fatal (ha : answer? (q :: qs) l 0 = some (.error e)) (fatal : e.isFatal = true) :
    runQueries (q :: qs) (r :: rs) l = (.error e, r :: rs, l.ask q) := by
  rw [answer?_zero] at ha
  cases q with
  | none => cases ha
  | some s =>
    rcases hs : l.queryBound s with ⟨a, m⟩
    rw [Option.map_some, hs] at ha
    cases ha
    simp [runQueries, Link.ask, hs, fatal]

theorem runQueries_survived (h : Survives (q :: qs) l 1) :
    let x := runQueries qs rs (l.ask q)
    runQueries (q :: qs) (r :: rs) l = (x.1, placed (answer? (q :: qs) l 0) r :: x.2.1, x.2.2) := by
  have first := h 0 Nat.one_pos
  rw [answer?_zero] at first ⊢
  cases q with
  | none => rfl
  | some s =>
    rcases hs : l.queryBound s with ⟨a | rows, m⟩
    · have nonfatal : a.isFatal = false := first a (by rw [Option.map_some, hs])
      simp [runQueries, Link.ask, placed, hs, nonfatal, Except.toOption]
    · simp [runQueries, Link.ask, placed, hs, Except.toOption]

theorem length_runQueries (qs : List (Option Statement)) (rs : List (Option Cursor)) (l : Link) :
    (runQueries qs rs l).2.1.length = rs.length := by
  fun_induction runQueries qs rs l with
  | case1 | case2 | case4 =>
    rename_i hr ih
    rw [hr] at ih
    simpa using ih
  | case3 | case5 => rfl

/-- Without a fatal failure every query is asked. -/
theorem runQueries_ok (same : qs.length = rs.length) (h : Survives qs l qs.length) :
    let x := runQueries qs rs l
    x.1 = .ok () ∧ x.2.2 = l.askAll qs ∧
      ∀ i, x.2.1[i]?.join = placed (answer? qs l i) rs[i]?.join := by
  induction qs generalizing rs l with
  | nil =>
    cases rs with
    | nil => exact ⟨rfl, rfl, fun _ => rfl⟩
    | cons => cases same
  | cons q qs ih =>
    cases rs with
    | nil => cases same
    | cons r rs =>
      obtain ⟨hok, hlink, hresults⟩ := ih (by simpa using same) h.tail
      have first : Survives (q :: qs) l 1 := fun j hj => h j (by simp; omega)
      rw [runQueries_survived first]
      refine ⟨hok, hlink, ?_⟩
      intro i
      cases i with
      | zero => rfl
      | succ i => exact hresults i

/-- The first fatal failure ends the run: what stands behind it is not asked. -/
theorem runQueries_ends (same : qs.length = rs.length) (ha : answer? qs l i = some (.error e))
    (fatal : e.isFatal = true) (h : Survives qs l i) :
    let x := runQueries qs rs l
    x.1 = .error e ∧ x.2.2 = l.askAll (qs.take (i + 1)) ∧
      ∀ j, x.2.1[j]?.join = if j < i then placed (answer? qs l j) rs[j]?.join else rs[j]?.join := by
  induction qs generalizing rs l i with
  | nil => cases ha
  | cons q qs ih =>
    cases rs with
    | nil => cases same
    | cons r rs =>
      cases i with
      | zero =>
        rw [runQueries_fatal ha fatal]
        exact ⟨rfl, rfl, fun j => by simp⟩
      | succ i =>
        obtain ⟨herror, hlink, hresults⟩ := ih (by simpa using same) ha h.tail
        have first : Survives (q :: qs) l 1 := fun j hj => h j (by omega)
        rw [runQueries_survived first]
        refine ⟨herror, hlink, ?_⟩
        intro j
        cases j with
        | zero => simp
        | succ j => simpa [answer?_succ] using hresults j

theorem use_paired (h : b.Paired) (u : Use) : (b.use u).Paired := by
  unfold Paired at h ⊢
  cases u with
  | resize n => simp [use, resize, List.rightpad, h]
  | setQuery i s => simpa [use, setQuery] using h
  | takeResult i => simpa [use, takeResult] using h
  | run l => exact h.trans (length_runQueries b.queries b.results l).symm

theorem ofUses_paired (us : List Use) : (ofUses us).Paired := by
  have keeps : ∀ (b : Batch), b.Paired → (us.foldl use b).Paired := by
    induction us with
    | nil => exact fun _ h => h
    | cons u us ih => exact fun b h => ih (b.use u) (use_paired h u)
  exact keeps {} rfl

theorem task_run_batch (b : Batch) (limit : Duration) (retries : Nat) (l : Link) :
    (Task.batch b).run limit retries l = ((b.run l).1.map fun () => (b.run l).2.1, (b.run l).2.2) :=
  rfl

theorem awaits_of_pending {k : Board} {t : Task} {i : Nat}
    (pending : k.slot? t.kind i = some .pending) : (⟨t, some i⟩ : Job).Awaits k := by
  intro i' hi
  cases hi
  exact pending

/-- However a batch came about, it has a place for the result of each query. Its run leaves the
connection and the server as its queries do that are asked directly, from the first place to the
last, up to and with the first that ends fatally. Every place that was passed then holds the rows of
its query, or what it held before if it has none. If all queries were asked, the batch is delivered
with its results; otherwise the fatal error is returned and its slot breaks. -/
theorem asks_in_turn (us : List Use) (l : Link) :
    let b := ofUses us
    let x := b.run l
    let settled (k : Board) (i : Nat) (limit : Duration) (retries : Nat) : Board :=
      let j : Job := ⟨.batch b, some i⟩
      j.settle (j.task.run limit retries l).1 k
    b.queries.length = b.results.length ∧ x.2.1.queries = b.queries ∧
    (Survives b.queries l b.size →
      x.1 = .ok () ∧ x.2.2 = l.askAll b.queries ∧
      (∀ i, x.2.1.result? i = placed (answer? b.queries l i) (b.result? i)) ∧
      ∀ k i limit retries, k.slot? .batch i = some .pending →
        (settled k i limit retries).slot? .batch i = some (.ready x.2.1)) ∧
    (∀ n e, answer? b.queries l n = some (.error e) → e.isFatal = true → Survives b.queries l n →
      x.1 = .error e ∧ x.2.2 = l.askAll (b.queries.take (n + 1)) ∧
      (∀ i, x.2.1.result? i =
        if i < n then placed (answer? b.queries l i) (b.result? i) else b.result? i) ∧
      ∀ k i limit retries, k.slot? .batch i = some .pending →
        (settled k i limit retries).slot? .batch i = some .broken) := by
  intro b x settled
  have paired : b.Paired := ofUses_paired us
  refine ⟨paired, rfl, ?_, ?_⟩
  · intro survives
    obtain ⟨hok, hlink, hresults⟩ := runQueries_ok paired survives
    refine ⟨hok, hlink, hresults, ?_⟩
    intro k i limit retries pending
    have delivered : ((Task.batch b).run limit retries l).1 = .ok (b.run l).2.1 := by
      rw [task_run_batch, show (b.run l).1 = .ok () from hok]
      rfl
    exact Job.settle_ready (awaits_of_pending pending) rfl delivered
  · intro n e ha fatal survives
    obtain ⟨herror, hlink, hresults⟩ := runQueries_ends paired ha fatal survives
    refine ⟨herror, hlink, hresults, ?_⟩
    intro k i limit retries pending
    have ended : ((Task.batch b).run limit retries l).1 = .error e := by
      rw [task_run_batch, show (b.run l).1 = .error e from herror]
      rfl
    exact Job.settle_broken (awaits_of_pending pending) rfl ended

/-- A statement with one placeholder and the value for it. -/
def pick (v : Option Value) : Statement :=
  let s := Statement.ofTemplate ⟨1, "SELECT ?", .both⟩
  v.elim s (s.bind 0)

/-- An open connection that knows the statement, on a server where the value 9 meets no table. -/
def picking : Link where
  conn := {
    login := ⟨"localhost", "3306", "trinity", "trinity", "world", false⟩
    side := .async
    registry := Keyed.empty.insert ⟨1, "SELECT ?", .both⟩
    policy := ⟨2, .zero⟩
    session := some { id := 1, prepared := Keyed.empty.insert (1, "SELECT ?") }
    prepared := Keyed.empty.insert (1, 1) }
  server := { sessions := 1, rules := [⟨"Int(9)", Code.unknownTable, none⟩] }

/-- Made smaller and larger again, with results of an earlier run: a query that succeeds, a place
without one, a query without its value, one that ends fatally and one behind it. -/
def reused : List Use :=
  [.resize 4, .setQuery 0 (pick (some (.int 5))), .setQuery 2 (pick (some (.int 6))), .run picking,
    .resize 3, .setQuery 0 (pick (some (.int 7))), .setQuery 2 (pick none), .resize 5,
    .setQuery 3 (pick (some (.int 9))), .setQuery 4 (pick (some (.int 8)))]

def noTable : PoolError :=
  .fatal (.schemaMismatch ⟨Code.unknownTable, "injected failure for 'SELECT ? [Int(9)]'"⟩)

theorem asks_in_turn_cut_short :
    let b := ofUses reused
    let x := b.run picking
    let settled : Board :=
      let j : Job := ⟨.batch b, some 0⟩
      j.settle (j.task.run .longest 0 picking).1 (Board.empty.update .batch fun _ => [.pending])
    answer? b.queries picking 3 = some (.error noTable) ∧ Survives b.queries picking 3 ∧
      x.1 = .error noTable ∧ x.2.2.server.executed = ["SELECT ? [Int(7)]"] ∧
      (b.result? 2).map (·.current) = some [.int 6] ∧ x.2.1.result? 2 = none ∧
      settled.slot? .batch 0 = some .broken := by
  have first : answer? (ofUses reused).queries picking 0 =
      some (.ok (some ⟨["c0"], 1, [.int 7], []⟩)) := by rfl
  have third : answer? (ofUses reused).queries picking 2 =
      some (.error (.binding (.unbound 1 0 1))) := by rfl
  have last : answer? (ofUses reused).queries picking 3 = some (.error noTable) := by rfl
  have survives : Survives (ofUses reused).queries picking 3 := by
    intro j hj e he
    match j, hj with
    | 0, _ =>
      rw [first] at he
      cases he
    | 1, _ => cases he
    | 2, _ =>
      rw [third] at he
      cases he
      rfl
  obtain ⟨error, link, results, broken⟩ :=
    (asks_in_turn reused picking).2.2.2 3 noTable last rfl survives
  have unanswered := results 2
  rw [if_pos (by decide), third] at unanswered
  have asked : (picking.askAll ((ofUses reused).queries.take 4)).server.executed =
      ["SELECT ? [Int(7)]"] := by decide +kernel
  exact ⟨last, survives, error, (congrArg (·.server.executed) link).trans asked, by rfl,
    unanswered, broken _ 0 .longest 0 rfl⟩

end Batch
end QueryPool
