import QueryPool.Statement.Template
import QueryPool.Value.Basic

namespace QueryPool

structure Statement where
  template : Template
  slots : List (Option Value)
  /-- the index of a value that was bound past the last slot -/
  pastEnd : Option Nat
  slots_length : slots.length = template.slots

namespace Statement

def ofTemplate (t : Template) : Statement :=
  ⟨t, List.replicate t.slots none, none, List.length_replicate⟩

def id (s : Statement) : Nat := s.template.id

def bind (s : Statement) (i : Nat) (v : Value) : Statement :=
  if i < s.slots.length then
    { s with slots := s.slots.set i (some v), slots_length := by simp [s.slots_length] }
  else { s with pastEnd := some (max (s.pastEnd.getD i) i) }

/-- Binds from the first slot on, as far as there are both slots and values. -/
def overwrite : List Value → List (Option Value) → List (Option Value)
  | v :: vs, _ :: slots => some v :: overwrite vs slots
  | _, slots => slots

@[simp] theorem length_overwrite (vs : List Value) (slots : List (Option Value)) :
    (overwrite vs slots).length = slots.length := by
  fun_induction overwrite vs slots <;> simp_all

def bindAll (s : Statement) (vs : List Value) : Statement :=
  { s with
    slots := overwrite vs s.slots
    pastEnd := if s.slots.length < vs.length then some (vs.length - 1) else s.pastEnd
    slots_length := by simp [s.slots_length] }

def clear (s : Statement) : Statement :=
  { s with slots := s.slots.map fun _ => none, pastEnd := none,
           slots_length := by simp [s.slots_length] }

/-- The bound values, or the index, counted from `i`, of the first slot without one. -/
def gather (i : Nat) : List (Option Value) → Except Nat (List Value)
  | [] => .ok []
  | none :: _ => .error i
  | some v :: slots => (gather (i + 1) slots).map (v :: ·)

def values (s : Statement) : Except PoolError (List Value) :=
  match s.pastEnd with
  | some i => .error (.binding (.pastEnd s.id s.slots.length i))
  | none =>
    (gather 0 s.slots).mapError fun i => .binding (.unbound s.id i s.slots.length)

theorem values_error {s : Statement} {e : PoolError} (h : s.values = .error e) :
    ∃ p, e = .binding p := by
  unfold values at h
  split at h
  · cases h
    exact ⟨_, rfl⟩
  · cases hg : gather 0 s.slots with
    | error i =>
      rw [hg] at h
      cases h
      exact ⟨_, rfl⟩
    | ok vs =>
      rw [hg] at h
      cases h

theorem length_of_gather {slots : List (Option Value)} {i : Nat} {vs : List Value}
    (h : gather i slots = .ok vs) : vs.length = slots.length := by
  induction slots generalizing i vs with
  | nil =>
    cases h
    rfl
  | cons slot slots ih =>
    cases slot with
    | none => cases h
    | some v =>
      unfold gather at h
      cases hg : gather (i + 1) slots with
      | error j =>
        rw [hg] at h
        cases h
      | ok ws =>
        rw [hg] at h
        cases h
        simpa using ih hg

theorem length_of_values {s : Statement} {vs : List Value} (h : s.values = .ok vs) :
    vs.length = s.template.slots := by
  unfold values at h
  split at h
  · cases h
  · cases hg : gather 0 s.slots with
    | error i =>
      rw [hg] at h
      cases h
    | ok ws =>
      rw [hg] at h
      cases h
      rw [length_of_gather hg, s.slots_length]

end Statement
end QueryPool
