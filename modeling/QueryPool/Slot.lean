namespace QueryPool

inductive Slot (α : Type) where
  | pending
  | ready (a : α)
  | taken
  /-- the producer went away without a result -/
  | broken

/-- What a consumer that waits is told. -/
inductive Status where
  | ready
  | timeout
  | broken
  deriving DecidableEq, Repr

namespace Slot

variable {α : Type}

/-- Sets the result unless it is settled; tells whether this call did. -/
def set (s : Slot α) (a : α) : Bool × Slot α :=
  match s with
  | pending => (true, ready a)
  | s => (false, s)

/-- The producer goes away. -/
def abandon : Slot α → Slot α
  | pending => broken
  | s => s

def take : Slot α → Option α × Slot α
  | ready a => (some a, taken)
  | s => (none, s)

/-- A taken result still counts as ready. -/
def settled? : Slot α → Option Status
  | pending => none
  | ready _ | taken => some .ready
  | broken => some .broken

/-- The answer without waiting. -/
def status (s : Slot α) : Status := s.settled?.getD .timeout

/-- Whether a result may still be had. -/
def isValid : Slot α → Bool
  | pending | ready _ => true
  | _ => false

def isReady : Slot α → Bool
  | ready _ => true
  | _ => false

variable {s : Slot α}

theorem status_of_settled {st : Status} (h : s.settled? = some st) : s.status = st := by
  rw [status, h]
  rfl

theorem pending_of_unsettled (h : s.settled? = none) : s = .pending := by
  cases s with
  | pending => rfl
  | ready | taken | broken => cases h

theorem ne_pending_of_settled {st : Status} (h : s.settled? = some st) : s ≠ .pending := by
  rintro rfl
  cases h

theorem set_of_settled (h : s ≠ .pending) (a : α) : s.set a = (false, s) := by
  cases s with
  | pending => exact absurd rfl h
  | ready | taken | broken => rfl

theorem abandon_of_settled (h : s ≠ .pending) : s.abandon = s := by
  cases s with
  | pending => exact absurd rfl h
  | ready | taken | broken => rfl

theorem abandon_settled (s : Slot α) : s.abandon ≠ .pending := by
  cases s <;> exact nofun

theorem set_broken {a : α} (h : (s.set a).2 = .broken) : s = .broken := by
  cases s with
  | broken => rfl
  | pending | ready | taken => cases h

theorem take_of_not_ready (h : s.status ≠ .ready) : s.take.2 = s := by
  cases s with
  | pending | broken => rfl
  | ready | taken => exact absurd rfl h

theorem take_broken (h : s.take.2 = .broken) : s = .broken := by
  cases s with
  | broken => rfl
  | pending | ready | taken => cases h

end Slot

/-- A slot with its producer and its consumers: those that hold it, those that wait on it, and what
the ones let go were told. -/
structure Handoff (α : Type) where
  slot : Slot α := .pending
  promised : Bool := true
  holders : Nat := 1
  waiting : Nat := 0
  released : List Status := []

namespace Handoff

variable {α : Type}

def ofValue (a : α) : Handoff α := { slot := .ready a, promised := false }

/-- Lets the waiting consumers go as soon as the slot is settled. -/
def release (h : Handoff α) : Handoff α :=
  match h.slot.settled? with
  | none => h
  | some st => { h with waiting := 0, released := h.released ++ List.replicate h.waiting st }

/-- Nothing happens once the producer is gone. -/
def set (h : Handoff α) (a : α) : Option Bool × Handoff α :=
  if h.promised then
    let (ok, slot) := h.slot.set a
    (some ok, { h with slot }.release)
  else (none, h)

def dropPromise (h : Handoff α) : Handoff α :=
  if h.promised then { h with slot := h.slot.abandon, promised := false }.release else h

def take (h : Handoff α) : Option α × Handoff α :=
  let (a, slot) := h.slot.take
  (a, { h with slot })

def await (h : Handoff α) (n : Nat) : Handoff α := { h with waiting := h.waiting + n }.release

/-- The answers of the consumers that waited, once all of them are back. -/
def join (h : Handoff α) : Option (List Status) × Handoff α :=
  match h.slot.settled? with
  | none => (none, h)
  | some _ => (some h.released, { h with released := [] })

variable {h : Handoff α}

theorem release_pending (hp : h.slot = .pending) : h.release = h := by
  simp [release, hp, Slot.settled?]

theorem release_settled {st : Status} (hs : h.slot.settled? = some st) :
    h.release = { h with waiting := 0, released := h.released ++ List.replicate h.waiting st } := by
  simp [release, hs]

theorem with_nobody_waiting (hw : h.waiting = 0) : { h with waiting := 0 } = h := by
  rw [← hw]

/-- With nobody waiting on a settled slot there is nobody to let go. -/
theorem release_idle (hw : h.slot ≠ .pending → h.waiting = 0) : h.release = h := by
  cases hs : h.slot.settled? with
  | none => exact release_pending (Slot.pending_of_unsettled hs)
  | some st =>
    obtain ⟨slot, promised, holders, waiting, released⟩ := h
    obtain rfl : waiting = 0 := hw (Slot.ne_pending_of_settled hs)
    simp [release_settled hs]

end Handoff
end QueryPool
