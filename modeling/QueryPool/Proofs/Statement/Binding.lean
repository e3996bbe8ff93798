import Mathlib.Data.List.Induction
import QueryPool.Statement.Bound

namespace QueryPool

/-- What a caller does to the values of a statement. -/
inductive Binding where
  | set (i : Nat) (v : Value)
  | setNull (i : Nat)
  /-- the values of the first slots -/
  | setAll (vs : List Value)
  | clear

namespace Binding

def isClear : Binding → Bool
  | clear => true
  | _ => false

/-- The values that are put, each with its index. -/
def puts : Binding → List (Nat × Value)
  | set i v => [(i, v)]
  | setNull i => [(i, .null)]
  | setAll vs => vs.zipIdx.map fun (v, i) => (i, v)
  | clear => []

/-- What a history has put since its last clear, the latest first. -/
def putSince (bs : List Binding) : List (Nat × Value) :=
  (bs.reverse.takeWhile (!·.isClear)).flatMap (·.puts.reverse)

/-- The value put last at an index. -/
def latest (put : List (Nat × Value)) (i : Nat) : Option Value :=
  (put.find? (·.1 = i)).map (·.2)

variable {put : List (Nat × Value)} {i : Nat} {v : Value}

theorem latest_cons (j : Nat) :
    latest ((i, v) :: put) j = if i = j then some v else latest put j := by
  unfold latest
  by_cases h : i = j <;> simp [h]

theorem mem_puts_setAll {vs : List Value} : (i, v) ∈ (setAll vs).puts ↔ vs[i]? = some v := by
  simp only [puts, List.mem_map, Prod.exists, List.mem_zipIdx_iff_getElem?, Prod.mk.injEq]
  constructor
  · rintro ⟨w, j, hw, rfl, rfl⟩
    exact hw
  · exact fun hv => ⟨v, i, hv, rfl, rfl⟩

theorem latest_setAll (vs : List Value) (put : List (Nat × Value)) (i : Nat) :
    latest ((setAll vs).puts.reverse ++ put) i = (vs[i]?).or (latest put i) := by
  unfold latest
  rw [List.find?_append, Option.map_or]
  congr 1
  cases hv : vs[i]? with
  | none =>
    rw [Option.map_eq_none_iff, List.find?_eq_none]
    rintro ⟨j, v⟩ hmem
    rw [List.mem_reverse, mem_puts_setAll] at hmem
    simp only [decide_eq_true_eq]
    rintro rfl
    rw [hv] at hmem
    cases hmem
  | some v =>
    have found : ((setAll vs).puts.reverse.find? (·.1 = i)).isSome := by
      rw [List.find?_isSome]
      exact ⟨(i, v), List.mem_reverse.2 (mem_puts_setAll.2 hv), by simp⟩
    obtain ⟨⟨j, w⟩, hp⟩ := Option.isSome_iff_exists.1 found
    have hj : j = i := by simpa using List.find?_some hp
    have hw := mem_puts_setAll.1 (List.mem_reverse.1 (List.mem_of_find?_eq_some hp))
    subst hj
    rw [hp, Option.map_some, ← hw, hv]

theorem putSince_concat (bs : List Binding) (b : Binding) :
    putSince (bs ++ [b]) = if b.isClear then [] else b.puts.reverse ++ putSince bs := by
  unfold putSince
  rw [List.reverse_append, List.reverse_singleton, List.singleton_append, List.takeWhile_cons]
  cases b.isClear <;> simp

end Binding

namespace Statement

open Binding

variable {s : Statement} {put : List (Nat × Value)}

def change (s : Statement) : Binding → Statement
  | .set i v => s.bind i v
  | .setNull i => s.bind i .null
  | .setAll vs => s.bindAll vs
  | .clear => s.clear

/-- A statement after a history of bindings. -/
def history (s : Statement) (bs : List Binding) : Statement := bs.foldl change s

theorem history_concat (s : Statement) (bs : List Binding) (b : Binding) :
    s.history (bs ++ [b]) = (s.history bs).change b := by
  rw [history, List.foldl_append, List.foldl_cons, List.foldl_nil, history]

/-- The slots hold what was put last, and the mark tells whether anything was put past them. -/
structure Reflects (s : Statement) (put : List (Nat × Value)) : Prop where
  slots : ∀ i < s.template.slots, s.slots[i]? = some (latest put i)
  pastEnd : s.pastEnd.isSome = true ↔ ∃ p ∈ put, s.template.slots ≤ p.1

theorem bind_template (s : Statement) (i : Nat) (v : Value) :
    (s.bind i v).template = s.template := by
  unfold bind
  split <;> rfl

theorem bind_pastEnd (s : Statement) (i : Nat) (v : Value) :
    (s.bind i v).pastEnd.isSome = true ↔ s.template.slots ≤ i ∨ s.pastEnd.isSome = true := by
  have hlen := s.slots_length
  unfold bind
  split
  · exact (or_iff_right (by omega)).symm
  · exact iff_of_true rfl (.inl (by omega))

theorem bind_slots (s : Statement) (v : Value) {i j : Nat} (hj : j < s.template.slots) :
    (s.bind i v).slots[j]? = if i = j then some (some v) else s.slots[j]? := by
  have hlen := s.slots_length
  unfold bind
  split
  · rename_i hi
    simp only [List.getElem?_set, hi, if_true]
  · rw [if_neg (by omega)]

theorem bind_reflects (h : s.Reflects put) (i : Nat) (v : Value) :
    (s.bind i v).Reflects ((i, v) :: put) where
  slots j hj := by
    rw [bind_template] at hj
    rw [bind_slots s v hj, latest_cons, h.slots j hj, apply_ite some]
  pastEnd := by
    rw [bind_pastEnd, bind_template, h.pastEnd]
    simp only [List.mem_cons, exists_eq_or_imp]

theorem getElem?_overwrite (vs : List Value) (slots : List (Option Value)) (i : Nat) :
    (overwrite vs slots)[i]? = slots[i]?.map fun old => (vs[i]?).or old := by
  fun_induction overwrite vs slots generalizing i with
  | case1 v vs slot slots ih =>
    cases i with
    | zero => rfl
    | succ i => simpa using ih i
  | case2 vs slots done =>
    cases vs with
    | nil => simp
    | cons v vs =>
      cases slots with
      | nil => simp
      | cons slot slots => exact (done v vs slot slots rfl rfl).elim

theorem bindAll_pastEnd (s : Statement) (vs : List Value) :
    (s.bindAll vs).pastEnd.isSome = true ↔ s.template.slots < vs.length ∨ s.pastEnd.isSome = true := by
  have hlen := s.slots_length
  simp only [bindAll]
  split
  · exact iff_of_true rfl (.inl (by omega))
  · exact (or_iff_right (by omega)).symm

theorem bindAll_reflects (h : s.Reflects put) (vs : List Value) :
    (s.bindAll vs).Reflects ((setAll vs).puts.reverse ++ put) where
  slots i hi := by
    simp only [bindAll, getElem?_overwrite, latest_setAll]
    rw [h.slots i hi, Option.map_some]
  pastEnd := by
    have past : s.template.slots < vs.length ↔
        ∃ p ∈ (setAll vs).puts, s.template.slots ≤ p.1 := by
      constructor
      · exact fun hlt => ⟨(_, vs[s.template.slots]),
          mem_puts_setAll.2 (List.getElem?_eq_getElem hlt), Nat.le_refl _⟩
      · rintro ⟨⟨i, v⟩, hp, hi⟩
        have := (List.getElem?_eq_some_iff.1 (mem_puts_setAll.1 hp)).1
        exact Nat.lt_of_le_of_lt hi this
    rw [bindAll_pastEnd, h.pastEnd, past]
    simp only [List.mem_append, List.mem_reverse, or_and_right, exists_or]
    rfl

theorem clear_reflects (s : Statement) : s.clear.Reflects [] where
  slots i hi := by
    have hi' : i < s.slots.length := by
      rw [s.slots_length]
      exact hi
    simp [clear, latest, hi']
  pastEnd := by simp [clear]

theorem change_template (s : Statement) (b : Binding) : (s.change b).template = s.template := by
  cases b with
  | set i v => exact s.bind_template i v
  | setNull i => exact s.bind_template i .null
  | setAll vs | clear => rfl

theorem change_reflects (h : s.Reflects put) (b : Binding) :
    (s.change b).Reflects (if b.isClear then [] else b.puts.reverse ++ put) := by
  cases b with
  | set i v => exact bind_reflects h i v
  | setNull i => exact bind_reflects h i .null
  | setAll vs => exact bindAll_reflects h vs
  | clear => exact s.clear_reflects

theorem history_reflects (t : Template) (bs : List Binding) :
    ((ofTemplate t).history bs).template = t ∧
      ((ofTemplate t).history bs).Reflects (putSince bs) := by
  induction bs using List.reverseRecOn with
  | nil =>
    refine ⟨rfl, fun i hi => ?_, by simp [history, ofTemplate, putSince]⟩
    have hi' : i < t.slots := hi
    simp [history, ofTemplate, putSince, latest, hi']
  | append_singleton bs b ih =>
    rw [history_concat, change_template, putSince_concat]
    exact ⟨ih.1, change_reflects ih.2 b⟩

theorem gather_map_some (k : Nat) (vs : List Value) : gather k (vs.map some) = .ok vs := by
  induction vs generalizing k with
  | nil => rfl
  | cons v vs ih =>
    rw [List.map_cons, gather, ih]
    rfl

theorem gather_ok_iff {slots : List (Option Value)} {k : Nat} {vs : List Value} :
    gather k slots = .ok vs ↔ slots = vs.map some := by
  refine ⟨fun h => ?_, fun h => h ▸ gather_map_some k vs⟩
  induction slots generalizing k vs with
  | nil =>
    cases h
    rfl
  | cons slot slots ih =>
    cases slot with
    | none => cases h
    | some v =>
      unfold gather at h
      cases hg : gather (k + 1) slots with
      | error j =>
        rw [hg] at h
        cases h
      | ok ws =>
        rw [hg] at h
        cases h
        rw [ih hg, List.map_cons]

/-- The first slot without a value is the one reported. -/
theorem gather_error_iff {slots : List (Option Value)} {k j : Nat} :
    gather k slots = .error j ↔
      ∃ i, j = k + i ∧ slots[i]? = some none ∧ ∀ i' < i, slots[i']? ≠ some none := by
  induction slots generalizing k with
  | nil => simp [gather]
  | cons slot slots ih =>
    cases slot with
    | none =>
      simp only [gather, Except.error.injEq]
      constructor
      · rintro rfl
        exact ⟨0, rfl, rfl, fun i' hi' => by omega⟩
      · rintro ⟨i, rfl, _, first⟩
        cases i with
        | zero => rfl
        | succ i => exact (first 0 (by omega) rfl).elim
    | some v =>
      have later : gather k (some v :: slots) = .error j ↔ gather (k + 1) slots = .error j := by
        rw [gather]
        cases gather (k + 1) slots <;> simp [Except.map]
      rw [later, ih]
      constructor
      · rintro ⟨i, rfl, unbound, first⟩
        refine ⟨i + 1, by omega, unbound, fun i' hi' => ?_⟩
        cases i' with
        | zero => simp
        | succ i' => exact first i' (by omega)
      · rintro ⟨i, rfl, unbound, first⟩
        cases i with
        | zero => simp at unbound
        | succ i => exact ⟨i, by omega, unbound, fun i' hi' => first (i' + 1) (by omega)⟩

theorem values_ok_iff {vs : List Value} :
    s.values = .ok vs ↔ s.pastEnd = none ∧ s.slots = vs.map some := by
  unfold values
  cases hp : s.pastEnd with
  | some i => simp
  | none =>
    rw [← gather_ok_iff (k := 0)]
    cases gather 0 s.slots <;> simp [Except.mapError]

theorem values_pastEnd {i : Nat} (h : s.pastEnd = some i) :
    s.values = .error (.binding (.pastEnd s.id s.template.slots i)) := by
  rw [values, h, s.slots_length]

theorem values_unbound {i : Nat} (past : s.pastEnd = none) (unbound : s.slots[i]? = some none)
    (first : ∀ j < i, s.slots[j]? ≠ some none) :
    s.values = .error (.binding (.unbound s.id i s.template.slots)) := by
  have hg : gather 0 s.slots = .error i := gather_error_iff.2 ⟨i, by omega, unbound, first⟩
  rw [values, past, hg, s.slots_length]
  rfl

namespace Reflects

variable {vs : List Value}

theorem pastEnd_eq_none (h : s.Reflects put) :
    s.pastEnd = none ↔ ∀ p ∈ put, p.1 < s.template.slots := by
  rw [← Option.not_isSome_iff_eq_none, h.pastEnd]
  simp only [not_exists, not_and, Nat.not_le]

theorem values_ok (h : s.Reflects put) (hv : s.values = .ok vs) :
    vs.length = s.template.slots ∧ ∀ i < s.template.slots, vs[i]? = latest put i := by
  have hlen := length_of_values hv
  refine ⟨hlen, fun i hi => ?_⟩
  have slot := h.slots i hi
  rw [(values_ok_iff.1 hv).2, List.getElem?_map, List.getElem?_eq_getElem (hlen ▸ hi)] at slot
  rw [List.getElem?_eq_getElem (hlen ▸ hi)]
  exact Option.some.inj slot

/-- All values are there if every slot had one put, and none was put elsewhere. -/
theorem exists_values_iff (h : s.Reflects put) :
    (∃ vs, s.values = .ok vs) ↔
      (∀ i < s.template.slots, latest put i ≠ none) ∧ ∀ p ∈ put, p.1 < s.template.slots := by
  constructor
  · rintro ⟨vs, hv⟩
    refine ⟨fun i hi => ?_, h.pastEnd_eq_none.1 (values_ok_iff.1 hv).1⟩
    obtain ⟨hlen, same⟩ := h.values_ok hv
    rw [← same i hi, List.getElem?_eq_getElem (hlen ▸ hi)]
    exact Option.some_ne_none _
  · rintro ⟨bound, within⟩
    cases hg : gather 0 s.slots with
    | ok vs => exact ⟨vs, values_ok_iff.2 ⟨h.pastEnd_eq_none.2 within, gather_ok_iff.1 hg⟩⟩
    | error j =>
      obtain ⟨i, _, unbound, _⟩ := gather_error_iff.1 hg
      have hi : i < s.template.slots := by
        rw [← s.slots_length]
        exact (List.getElem?_eq_some_iff.1 unbound).1
      exact (bound i hi (Option.some.inj ((h.slots i hi).symm.trans unbound))).elim

/-- The slot that is missing a value is the first of them. -/
theorem values_unbound (h : s.Reflects put) (within : ∀ p ∈ put, p.1 < s.template.slots) {i : Nat}
    (hi : i < s.template.slots) (unbound : latest put i = none)
    (first : ∀ j < i, latest put j ≠ none) :
    s.values = .error (.binding (.unbound s.id i s.template.slots)) := by
  refine Statement.values_unbound (h.pastEnd_eq_none.2 within) ?_ fun j hj none => ?_
  · rw [h.slots i hi, unbound]
  · rw [h.slots j (by omega)] at none
    exact first j hj (Option.some.inj none)

theorem values_pastEnd (h : s.Reflects put) (past : ∃ p ∈ put, s.template.slots ≤ p.1) :
    ∃ i, s.values = .error (.binding (.pastEnd s.id s.template.slots i)) := by
  obtain ⟨i, hi⟩ := Option.isSome_iff_exists.1 (h.pastEnd.2 past)
  exact ⟨i, Statement.values_pastEnd hi⟩

end Reflects

end Statement
end QueryPool
