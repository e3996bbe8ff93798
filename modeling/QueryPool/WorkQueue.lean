namespace QueryPool

/-- A queue between producers and consumers that can be cancelled for good. -/
structure WorkQueue (α : Type) where
  items : List α := []
  cancelled : Bool := false

namespace WorkQueue

variable {α : Type}

inductive Pushed (α : Type) where
  | queued
  | refused (a : α)

/-- Puts an item at the end, whether the queue goes on or not. -/
def send (q : WorkQueue α) (a : α) : WorkQueue α := { q with items := q.items ++ [a] }

/-- Takes the oldest item, whether the queue goes on or not. -/
def receive (q : WorkQueue α) : Option α × WorkQueue α :=
  match q.items with
  | [] => (none, q)
  | a :: items => (some a, { q with items })

def push (q : WorkQueue α) (a : α) : Pushed α × WorkQueue α :=
  if q.cancelled then (.refused a, q) else (.queued, q.send a)

def cancel (q : WorkQueue α) : WorkQueue α := { q with cancelled := true }

/-- Takes out what is left after the end. -/
def drain (q : WorkQueue α) : List α × WorkQueue α := (q.items, { q with items := [] })

def size (q : WorkQueue α) : Nat := q.items.length

/-- What a thread calls. -/
inductive Call (α : Type) where
  | push (a : α)
  | tryPop
  | waitAndPop
  | cancel

inductive Answer (α : Type) where
  | queued
  | returned (a : α)
  | popped (r : Option α)
  | cancelled

/-- Where a call stands once it has looked whether the queue has ended. Between two steps of a call
others may take theirs. -/
inductive Progress (α : Type) where
  | sending (a : α)
  | taking
  | waiting
  /-- a consumer that waited has taken an item and will look once more -/
  | holding (a : α)
  | finished (r : Answer α)

/-- What a waiting consumer may go on with. -/
inductive Arm where
  | items
  | shutdown
  deriving DecidableEq

/-- The choice that the channels make for a waiting consumer, told whether there is an item and
whether the queue has ended; without a choice the consumer is blocked. The number is chance. -/
abbrev Select := Nat → Bool → Bool → Option Arm

/-- A call begins with a look. -/
def enter (q : WorkQueue α) : Call α → Progress α × WorkQueue α
  | .push a => (if q.cancelled then .finished (.returned a) else .sending a, q)
  | .tryPop => (if q.cancelled then .finished (.popped none) else .taking, q)
  | .waitAndPop => (if q.cancelled then .finished (.popped none) else .waiting, q)
  | .cancel => (.finished .cancelled, q.cancel)

def proceed (select : Select) (chance : Nat) (q : WorkQueue α) :
    Progress α → Progress α × WorkQueue α
  | .sending a => (.finished .queued, q.send a)
  | .taking => (.finished (.popped q.receive.1), q.receive.2)
  | .waiting =>
    match select chance (!q.items.isEmpty) q.cancelled with
    | none => (.waiting, q)
    | some .shutdown => (.finished (.popped none), q)
    | some .items =>
      match q.receive with
      | (some a, q) => (.holding a, q)
      | (none, q) => (.finished (.popped none), q)
  -- an item received as the queue ended is dropped
  | .holding a => (.finished (.popped (if q.cancelled then none else some a)), q)
  | .finished r => (.finished r, q)

/-- A queue and the calls that were made on it. -/
structure Crowd (α : Type) where
  queue : WorkQueue α := {}
  calls : List (Progress α) := []

inductive Turn (α : Type) where
  | call (c : Call α)
  /-- the next step of the `i`-th call -/
  | go (i chance : Nat)

namespace Crowd

def turn (select : Select) (s : Crowd α) : Turn α → Crowd α
  | .call c => ⟨(s.queue.enter c).2, s.calls ++ [(s.queue.enter c).1]⟩
  | .go i chance =>
    match s.calls[i]? with
    | none => s
    | some p =>
      let (p, q) := proceed select chance s.queue p
      ⟨q, s.calls.set i p⟩

def run (select : Select) (s : Crowd α) (ts : List (Turn α)) : Crowd α := ts.foldl (turn select) s

end Crowd

/-- A call that nothing comes between pushes as `push` does. -/
theorem push_at_once (select : Select) (chance : Nat) (q : WorkQueue α) (a : α) :
    (q.push a).2 = (proceed select chance (q.enter (.push a)).2 (q.enter (.push a)).1).2 ∧
      ((q.push a).1 = .queued ↔
        (proceed select chance (q.enter (.push a)).2 (q.enter (.push a)).1).1 = .finished .queued) := by
  cases hc : q.cancelled <;> simp [push, enter, proceed, hc]

theorem push_queued {q : WorkQueue α} (a : α) (hc : q.cancelled = false) :
    q.push a = (.queued, q.send a) := by
  simp [push, hc]

theorem push_refused {q : WorkQueue α} (a : α) (hc : q.cancelled = true) :
    q.push a = (.refused a, q) := by
  simp [push, hc]

theorem receive_some {q q' : WorkQueue α} {a : α} (h : q.receive = (some a, q')) :
    q.items = a :: q'.items ∧ q'.cancelled = q.cancelled := by
  obtain ⟨items, cancelled⟩ := q
  cases items with
  | nil => cases h
  | cons a' items =>
    cases h
    exact ⟨rfl, rfl⟩

end WorkQueue
end QueryPool
