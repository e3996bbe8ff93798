import QueryPool.Connection.Calls

namespace QueryPool

structure Batch where
  queries : List (Option Statement) := []
  results : List (Option Cursor) := []

namespace Batch

/-- Places below the new size stay as they are. -/
def resize (b : Batch) (n : Nat) : Batch :=
  { queries := (b.queries.take n).rightpad n none
    results := (b.results.take n).rightpad n none }

def ofSize (n : Nat) : Batch := resize {} n

def size (b : Batch) : Nat := b.queries.length

/-- Tells whether there is such a place. -/
def setQuery (b : Batch) (i : Nat) (s : Statement) : Bool × Batch :=
  (i < b.size, { b with queries := b.queries.set i (some s) })

def result? (b : Batch) (i : Nat) : Option Cursor := b.results[i]?.join

def takeResult (b : Batch) (i : Nat) : Option Cursor × Batch :=
  (b.result? i, { b with results := b.results.set i none })

/-- Runs the queries in order. A failure leaves its place without a result; a fatal one ends the
run and leaves the place, and those after it, as they were. -/
def runQueries : List (Option Statement) → List (Option Cursor) → Link →
    Except PoolError Unit × List (Option Cursor) × Link
  | none :: qs, r :: rs, l =>
    let (e, rs, l) := runQueries qs rs l
    (e, r :: rs, l)
  | some s :: qs, r :: rs, l =>
    match l.queryBound s with
    | (.ok rows, l) =>
      let (e, rs, l) := runQueries qs rs l
      (e, rows :: rs, l)
    | (.error err, l) =>
      if err.isFatal then (.error err, r :: rs, l)
      else
        let (e, rs, l) := runQueries qs rs l
        (e, none :: rs, l)
  | _, rs, l => (.ok (), rs, l)

def run (b : Batch) (l : Link) : Except PoolError Unit × Batch × Link :=
  let (e, results, l) := runQueries b.queries b.results l
  (e, { b with results }, l)

/-- Only a fatal failure ends a run early. -/
theorem runQueries_error {qs : List (Option Statement)} {rs : List (Option Cursor)} {l : Link}
    {e : PoolError} (h : (runQueries qs rs l).1 = .error e) : e.isFatal = true := by
  fun_induction runQueries qs rs l with
  | case1 | case2 | case4 =>
    rename_i hr ih
    apply ih
    rw [hr]
    exact h
  | case3 =>
    rename_i fatal
    cases h
    exact fatal
  | case5 => cases h

end Batch
end QueryPool
