namespace QueryPool

structure Keyed (α : Type) (key : α → Nat) where
  toList : List α
  ordered : toList.Pairwise fun a b => key a < key b

abbrev IdMap (α : Type) := Keyed (Nat × α) Prod.fst

namespace Keyed

variable {α : Type} {key : α → Nat}

def put (key : α → Nat) (a : α) : List α → List α
  | [] => [a]
  | b :: l =>
    if key a < key b then a :: b :: l
    else if key b < key a then b :: put key a l
    else a :: l

theorem mem_put {a x : α} {l : List α} (h : x ∈ put key a l) : x = a ∨ x ∈ l := by
  induction l with
  | nil => simpa [put] using h
  | cons b l ih => grind [put]

theorem pairwise_put {a : α} {l : List α} (h : l.Pairwise fun a b => key a < key b) :
    (put key a l).Pairwise fun a b => key a < key b := by
  induction l with
  | nil => simp [put]
  | cons b l ih =>
    have hb := List.pairwise_cons.1 h
    unfold put
    split
    · rename_i hab
      refine List.pairwise_cons.2 ⟨fun x hx => ?_, h⟩
      rcases List.mem_cons.1 hx with rfl | hx
      · exact hab
      · exact Nat.lt_trans hab (hb.1 x hx)
    · split
      · rename_i hba
        refine List.pairwise_cons.2 ⟨fun x hx => ?_, ih hb.2⟩
        rcases mem_put hx with rfl | hx
        · exact hba
        · exact hb.1 x hx
      · refine List.pairwise_cons.2 ⟨fun x hx => ?_, hb.2⟩
        have := hb.1 x hx
        omega

def empty : Keyed α key := ⟨[], .nil⟩

instance : EmptyCollection (Keyed α key) := ⟨empty⟩

instance : Inhabited (Keyed α key) := ⟨empty⟩

def insert (m : Keyed α key) (a : α) : Keyed α key := ⟨put key a m.toList, pairwise_put m.ordered⟩

def get? (m : Keyed α key) (k : Nat) : Option α := m.toList.find? fun a => key a = k

theorem find?_put (a : α) (k : Nat) (l : List α) :
    (put key a l).find? (fun b => key b = k) =
      if key a = k then some a else l.find? fun b => key b = k := by
  induction l with
  | nil => by_cases h : key a = k <;> simp [put, h]
  | cons b l ih =>
    unfold put
    split
    · by_cases h : key a = k <;> simp [List.find?_cons, h]
    · split
      · by_cases h : key b = k
        · have : key a ≠ k := by omega
          simp [h, this]
        · simp [h, ih]
      · have hab : key a = key b := by omega
        by_cases h : key b = k <;> simp [hab, h]

theorem get?_insert (m : Keyed α key) (a : α) (k : Nat) :
    (m.insert a).get? k = if key a = k then some a else m.get? k :=
  find?_put a k m.toList

def contains (m : Keyed α key) (k : Nat) : Bool := m.toList.any fun a => key a = k

def keys (m : Keyed α key) : List Nat := m.toList.map key

def size (m : Keyed α key) : Nat := m.toList.length

theorem key_of_get? {m : Keyed α key} {k : Nat} {a : α} (h : m.get? k = some a) : key a = k := by
  simpa using List.find?_some h

theorem get?_of_mem {m : Keyed α key} {a : α} (h : a ∈ m.toList) : m.get? (key a) = some a := by
  obtain ⟨l, ordered⟩ := m
  change l.find? (fun b => key b = key a) = some a
  induction l with
  | nil => simp at h
  | cons b l ih =>
    have hb := List.pairwise_cons.1 ordered
    rcases List.mem_cons.1 h with rfl | ha
    · simp
    · have hlt := hb.1 a ha
      have hne : key b ≠ key a := by omega
      simpa [List.find?_cons, hne] using ih hb.2 ha

theorem contains_iff {m : Keyed α key} {k : Nat} : m.contains k = true ↔ ∃ a, m.get? k = some a := by
  simp only [contains, get?, List.any_eq_true, decide_eq_true_eq, ← Option.isSome_iff_exists,
    List.find?_isSome]

theorem contains_insert {m : Keyed α key} {a : α} {k : Nat} :
    (m.insert a).contains k = true ↔ key a = k ∨ m.contains k = true := by
  simp only [contains_iff, get?_insert]
  by_cases h : key a = k
  · simp [h]
  · simp [h]

theorem mem_keys {m : Keyed α key} {k : Nat} : k ∈ m.keys ↔ m.contains k = true := by
  simp [keys, contains]

theorem nodup_keys (m : Keyed α key) : m.keys.Nodup :=
  (List.pairwise_map.2 m.ordered).imp Nat.ne_of_lt

@[simp] theorem get?_empty (k : Nat) : (∅ : Keyed α key).get? k = none := rfl

end Keyed
end QueryPool
