import QueryPool.Batch
import QueryPool.Slot

namespace QueryPool

inductive Kind where
  | flag
  | rows
  | batch
  deriving DecidableEq, Repr

def Kind.Payload : Kind → Type
  | .flag => Bool
  | .rows => Option Cursor
  | .batch => Batch

structure Board where
  slots : (k : Kind) → List (Slot k.Payload)

namespace Board

def empty : Board := ⟨fun _ => []⟩

instance : Inhabited Board := ⟨empty⟩

/-- A change to the slots of one kind. -/
abbrev Change (k : Kind) := List (Slot k.Payload) → List (Slot k.Payload)

def update (b : Board) (k : Kind) (f : Change k) : Board :=
  ⟨fun k' => if h : k' = k then h ▸ f (b.slots k) else b.slots k'⟩

@[simp] theorem slots_update_same (b : Board) (k : Kind) (f : Change k) :
    (b.update k f).slots k = f (b.slots k) := by
  simp [update]

theorem slots_update_ne (b : Board) {k k' : Kind} (h : k' ≠ k) (f : Change k) :
    (b.update k f).slots k' = b.slots k' := by
  simp [update, h]

/-- A new slot; gives its index among the slots of its kind. -/
def add (b : Board) (k : Kind) (s : Slot k.Payload) : Nat × Board :=
  ((b.slots k).length, b.update k (· ++ [s]))

def slot? (b : Board) (k : Kind) (i : Nat) : Option (Slot k.Payload) := (b.slots k)[i]?

def put (b : Board) (k : Kind) (i : Nat) (s : Slot k.Payload) : Board := b.update k (·.set i s)

/-- What a consumer is told of a slot; a slot that is not there has no result to give. -/
def status (b : Board) (k : Kind) (i : Nat) : Status := ((b.slot? k i).getD .broken).status

def isValid (b : Board) (k : Kind) (i : Nat) : Bool := ((b.slot? k i).getD .broken).isValid

def set (b : Board) (k : Kind) (i : Nat) (a : k.Payload) : Bool × Board :=
  let (ok, s) := ((b.slot? k i).getD .broken).set a
  (ok, b.put k i s)

def abandon (b : Board) (k : Kind) (i : Nat) : Board :=
  b.put k i ((b.slot? k i).getD .broken).abandon

def take (b : Board) (k : Kind) (i : Nat) : Option k.Payload × Board :=
  let (a, s) := ((b.slot? k i).getD .broken).take
  (a, b.put k i s)

variable {b : Board} {k k' : Kind} {i i' : Nat}

theorem slot?_put_same {s' : Slot k.Payload} (h : b.slot? k i = some s') (s : Slot k.Payload) :
    (b.put k i s).slot? k i = some s := by
  have hi : i < (b.slots k).length := (List.getElem?_eq_some_iff.1 h).1
  simp [slot?, put, hi]

theorem slot?_put_ne (h : ¬(k' = k ∧ i' = i)) (s : Slot k.Payload) :
    (b.put k i s).slot? k' i' = b.slot? k' i' := by
  by_cases hk : k' = k
  · subst hk
    have hi : i ≠ i' := fun hi => h ⟨rfl, hi.symm⟩
    simp [slot?, put, List.getElem?_set_ne hi]
  · simp [slot?, put, slots_update_ne b hk]

theorem isSome_slot?_put (s : Slot k.Payload) :
    ((b.put k i s).slot? k' i').isSome = (b.slot? k' i').isSome := by
  by_cases hk : k' = k
  · subst hk
    simp only [slot?, put, slots_update_same]
    by_cases hi : i = i'
    · subst hi
      rw [List.getElem?_set_self']
      cases (b.slots k')[i]? <;> rfl
    · rw [List.getElem?_set_ne hi]
  · simp [slot?, put, slots_update_ne b hk]

/-- A new slot stands behind all others of its kind. -/
theorem slot?_add_new (b : Board) (k : Kind) (s : Slot k.Payload) :
    (b.add k s).2.slot? k (b.slots k).length = some s := by
  simp [slot?, add]

theorem slot?_add_ne (h : ¬(k' = k ∧ i' = (b.slots k).length)) (s : Slot k.Payload) :
    (b.add k s).2.slot? k' i' = b.slot? k' i' := by
  by_cases hk : k' = k
  · subst hk
    have hi : i' ≠ (b.slots k').length := fun hi => h ⟨rfl, hi⟩
    simp only [slot?, add, slots_update_same]
    rcases Nat.lt_or_gt_of_ne hi with hlt | hgt
    · exact List.getElem?_append_left hlt
    · rw [List.getElem?_eq_none (by simp; omega), List.getElem?_eq_none (by omega)]
  · simp [slot?, add, slots_update_ne b hk]

theorem slot?_take (b : Board) (k k' : Kind) (i i' : Nat) : (b.take k i).2.slot? k' i' =
    (b.slot? k' i').map fun s => if k' = k ∧ i' = i then s.take.2 else s := by
  by_cases h : k' = k ∧ i' = i
  · obtain ⟨rfl, rfl⟩ := h
    cases hs : b.slot? k' i' with
    | none =>
      have hn : ((b.take k' i').2.slot? k' i').isSome = (b.slot? k' i').isSome := isSome_slot?_put _
      rw [hs] at hn
      simpa using hn
    | some s => simp [take, hs, slot?_put_same hs]
  · simp [take, slot?_put_ne h, h]

/-- A slot that is not there stays away, whatever is put in its place. -/
theorem slot?_put_of_slot (b : Board) (k : Kind) (i i' : Nat)
    (f : Slot k.Payload → Slot k.Payload) :
    (b.put k i (f ((b.slot? k i).getD .broken))).slot? k i' =
      (b.slot? k i').map fun s => if i' = i then f s else s := by
  by_cases h : i' = i
  · subst h
    cases hs : b.slot? k i' with
    | none =>
      have hn : ((b.put k i' (f .broken)).slot? k i').isSome = (b.slot? k i').isSome :=
        isSome_slot?_put _
      rw [hs] at hn
      simpa using hn
    | some s => simp [slot?_put_same hs]
  · have hne : ¬(k = k ∧ i' = i) := fun h' => h h'.2
    simp [slot?_put_ne hne, h]

theorem slot?_set (b : Board) (k : Kind) (i i' : Nat) (a : k.Payload) :
    (b.set k i a).2.slot? k i' =
      (b.slot? k i').map fun s => if i' = i then (s.set a).2 else s :=
  b.slot?_put_of_slot k i i' fun s => (s.set a).2

theorem slot?_abandon (b : Board) (k : Kind) (i i' : Nat) :
    (b.abandon k i).slot? k i' =
      (b.slot? k i').map fun s => if i' = i then s.abandon else s :=
  b.slot?_put_of_slot k i i' Slot.abandon

/-- A slot that is not there counts as broken. -/
def slotAt (b : Board) (k : Kind) (i : Nat) : Slot k.Payload := (b.slot? k i).getD .broken

theorem slotAt_put (b : Board) (k : Kind) (i i' : Nat) {f : Slot k.Payload → Slot k.Payload}
    (broken : f .broken = .broken) :
    (b.put k i (f (b.slotAt k i))).slotAt k i' =
      if i' = i then f (b.slotAt k i') else b.slotAt k i' := by
  have h := b.slot?_put_of_slot k i i' f
  rw [slotAt, slotAt, h, slotAt]
  cases b.slot? k i' with
  | none => simp [broken]
  | some s => rfl

theorem slotAt_put_ne (hk : k' ≠ k) (s : Slot k.Payload) :
    (b.put k i s).slotAt k' i' = b.slotAt k' i' := by
  have other : ¬(k' = k ∧ i' = i) := fun h => hk h.1
  rw [slotAt, slotAt, slot?_put_ne other]

theorem slotAt_take (b : Board) (k k' : Kind) (i i' : Nat) : (b.take k i).2.slotAt k' i' =
    if k' = k ∧ i' = i then (b.slotAt k' i').take.2 else b.slotAt k' i' := by
  rw [slotAt, slotAt, slot?_take]
  cases b.slot? k' i' with
  | none => simp [Slot.take]
  | some s => rfl

end Board
end QueryPool
