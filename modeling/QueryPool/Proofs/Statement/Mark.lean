import Mathlib.Order.Bounds.Basic
import QueryPool.Proofs.Statement.Binding

namespace QueryPool

namespace Binding

/-- Whether more values are put at once than there are slots. -/
def overfills (n : Nat) : Binding → Bool
  | setAll vs => n < vs.length
  | _ => false

/-- What bindings, the latest first, have put since one of them cleared or overfilled `n` slots, with
what the one that overfilled them put. -/
def putFrom (n : Nat) : List Binding → List (Nat × Value)
  | [] => []
  | b :: bs =>
    if b.isClear then [] else b.puts.reverse ++ if b.overfills n then [] else putFrom n bs

/-- What a history has put since it last cleared or overfilled `n` slots, the latest first. -/
def putAfresh (n : Nat) (bs : List Binding) : List (Nat × Value) := putFrom n bs.reverse

def indices (put : List (Nat × Value)) : Set Nat := {i | ∃ v, (i, v) ∈ put}

variable {n i : Nat} {v : Value} {put put' : List (Nat × Value)}

theorem mem_indices : i ∈ indices put ↔ ∃ v, (i, v) ∈ put := Iff.rfl

theorem indices_cons : indices ((i, v) :: put) = insert i (indices put) := by
  ext j
  rw [Set.mem_insert_iff, mem_indices, mem_indices]
  constructor
  · rintro ⟨w, hw⟩
    rcases List.mem_cons.1 hw with same | later
    · exact .inl (congrArg Prod.fst same)
    · exact .inr ⟨w, later⟩
  · rintro (rfl | ⟨w, hw⟩)
    · exact ⟨v, List.mem_cons_self⟩
    · exact ⟨w, List.mem_cons_of_mem _ hw⟩

theorem indices_append : indices (put ++ put') = indices put ∪ indices put' := by
  ext j
  simp only [Set.mem_union, mem_indices, List.mem_append, exists_or]

theorem mem_indices_setAll {vs : List Value} :
    i ∈ indices (setAll vs).puts.reverse ↔ i < vs.length := by
  simp only [mem_indices, List.mem_reverse, mem_puts_setAll, List.getElem?_eq_some_iff]
  exact ⟨fun ⟨_, hi, _⟩ => hi, fun hi => ⟨_, hi, rfl⟩⟩

theorem putAfresh_concat (n : Nat) (bs : List Binding) (b : Binding) :
    putAfresh n (bs ++ [b]) = if b.isClear then [] else
      b.puts.reverse ++ if b.overfills n then [] else putAfresh n bs := by
  simp only [putAfresh, List.reverse_append, List.reverse_singleton, List.singleton_append, putFrom]

/-- What was put since the last clear begins with what was put afresh. -/
theorem putSince_split (n : Nat) (bs : List Binding) :
    ∃ forgotten, putSince bs = putAfresh n bs ++ forgotten := by
  induction bs using List.reverseRecOn with
  | nil => exact ⟨[], rfl⟩
  | append_singleton bs b ih =>
    rw [putSince_concat, putAfresh_concat]
    split
    · exact ⟨[], rfl⟩
    · split
      · exact ⟨putSince bs, by rw [List.append_nil]⟩
      · obtain ⟨forgotten, h⟩ := ih
        exact ⟨forgotten, by rw [h, List.append_assoc]⟩

/-- All that was put since the last clear was put afresh if nothing overfilled the slots since. -/
theorem putAfresh_eq_putSince {bs : List Binding}
    (h : ∀ b ∈ bs.reverse.takeWhile (!·.isClear), b.overfills n = false) :
    putAfresh n bs = putSince bs := by
  unfold putAfresh putSince
  generalize bs.reverse = latest at h ⊢
  induction latest with
  | nil => rfl
  | cons b earlier ih =>
    cases hb : b.isClear with
    | true => simp [putFrom, hb]
    | false =>
      simp only [List.takeWhile_cons, hb, Bool.not_false, if_true] at h ⊢
      rw [List.forall_mem_cons] at h
      simp only [putFrom, hb, h.1, Bool.false_eq_true, if_false, List.flatMap_cons, ih h.2]

end Binding

namespace Statement

open Binding

variable {s s' : Statement} {put new : List (Nat × Value)} {i : Nat}

/-- The mark stands at the largest index that was put, if that is past the last slot. -/
structure Marks (s : Statement) (put : List (Nat × Value)) : Prop where
  unmarked : s.pastEnd = none → ∀ j ∈ indices put, j < s.template.slots
  marked : ∀ i, s.pastEnd = some i → s.template.slots ≤ i ∧ IsGreatest (indices put) i

/-- The mark stays where it is while values go into slots. -/
theorem Marks.within (h : s.Marks put) (template : s'.template = s.template)
    (mark : s'.pastEnd = s.pastEnd) (below : ∀ j ∈ indices new, j < s.template.slots) :
    s'.Marks (new ++ put) where
  unmarked none j hj := by
    rw [indices_append] at hj
    rw [template]
    rcases hj with hj | hj
    · exact below j hj
    · exact h.unmarked (mark ▸ none) j hj
  marked i hi := by
    obtain ⟨past, mem, largest⟩ := h.marked i (mark ▸ hi)
    rw [template, indices_append]
    refine ⟨past, .inr mem, ?_⟩
    rintro j (hj | hj)
    · exact (below j hj).le.trans past
    · exact largest hj

theorem marks_of_largest (mark : s.pastEnd = some i) (past : s.template.slots ≤ i)
    (largest : IsGreatest (indices put) i) : s.Marks put where
  unmarked none := by cases mark.symm.trans none
  marked j hj := by
    obtain rfl := Option.some.inj (mark.symm.trans hj)
    exact ⟨past, largest⟩

theorem bind_marks (h : s.Marks put) (i : Nat) (v : Value) : (s.bind i v).Marks ((i, v) :: put) := by
  have hlen := s.slots_length
  by_cases hi : i < s.template.slots
  · change (s.bind i v).Marks ([(i, v)] ++ put)
    refine h.within (s.bind_template i v) (by rw [bind, if_pos (by omega)]) ?_
    rintro j ⟨w, hw⟩
    obtain ⟨rfl, rfl⟩ := Prod.mk.inj (List.mem_singleton.1 hw)
    exact hi
  · have mark : (s.bind i v).pastEnd = some (max (s.pastEnd.getD i) i) := by
      rw [bind, if_neg (by omega)]
    have largest : IsGreatest (indices ((i, v) :: put)) (max (s.pastEnd.getD i) i) := by
      rw [indices_cons, max_comm]
      cases old : s.pastEnd with
      | none =>
        -- what was put so far went into slots
        rw [Option.getD_none, max_self]
        refine ⟨.inl rfl, ?_⟩
        rintro j (rfl | hj)
        · exact le_rfl
        · have := h.unmarked old j hj
          omega
      | some k => exact (h.marked k old).2.insert i
    refine marks_of_largest mark ?_ largest
    rw [bind_template]
    omega

theorem bindAll_marks (h : s.Marks put) (vs : List Value) :
    (s.bindAll vs).Marks ((setAll vs).puts.reverse ++
      if (setAll vs).overfills s.template.slots then [] else put) := by
  have hlen := s.slots_length
  by_cases hover : s.template.slots < vs.length
  · have mark : (s.bindAll vs).pastEnd = some (vs.length - 1) := if_pos (by omega)
    rw [overfills, decide_eq_true hover, if_pos rfl, List.append_nil]
    refine marks_of_largest mark (show s.template.slots ≤ _ by omega) ⟨?_, fun j hj => ?_⟩
    · rw [mem_indices_setAll]
      omega
    · rw [mem_indices_setAll] at hj
      omega
  · rw [overfills, decide_eq_false hover, if_neg Bool.false_ne_true]
    refine h.within rfl (if_neg (by omega)) fun j hj => ?_
    rw [mem_indices_setAll] at hj
    omega

theorem marks_nil (mark : s.pastEnd = none) : s.Marks [] where
  unmarked _ j hj := by
    obtain ⟨v, hv⟩ := hj
    cases hv
  marked i hi := by cases mark.symm.trans hi

theorem change_marks (h : s.Marks put) (b : Binding) :
    (s.change b).Marks (if b.isClear then [] else
      b.puts.reverse ++ if b.overfills s.template.slots then [] else put) := by
  cases b with
  | set i v => exact bind_marks h i v
  | setNull i => exact bind_marks h i .null
  | setAll vs => exact bindAll_marks h vs
  | clear => exact marks_nil rfl

theorem history_marks (t : Template) (bs : List Binding) :
    ((ofTemplate t).history bs).Marks (putAfresh t.slots bs) := by
  induction bs using List.reverseRecOn with
  | nil => exact marks_nil rfl
  | append_singleton bs b ih =>
    have kept := change_marks ih b
    rw [(history_reflects t bs).1] at kept
    rw [history_concat, putAfresh_concat]
    exact kept

/-- When a value was put past the last slot since the last clear, the index that is reported is the
largest that was put since values last overfilled the slots, or since the clear if they never did. It
is the largest since the clear if and only if what was put before they did reached no further. -/
theorem reports_largest_put_afresh (t : Template) (bs : List Binding)
    (past : ∃ p ∈ putSince bs, t.slots ≤ p.1) :
    ∃ i forgotten,
      ((ofTemplate t).history bs).values = .error (.binding (.pastEnd t.id t.slots i)) ∧
      t.slots ≤ i ∧ IsGreatest (indices (putAfresh t.slots bs)) i ∧
      putSince bs = putAfresh t.slots bs ++ forgotten ∧
      (IsGreatest (indices (putSince bs)) i ↔ ∀ p ∈ forgotten, p.1 ≤ i) ∧
      ((∀ b ∈ bs.reverse.takeWhile (!·.isClear), b.overfills t.slots = false) →
        IsGreatest (indices (putSince bs)) i) := by
  obtain ⟨same, reflects⟩ := history_reflects t bs
  obtain ⟨i, mark⟩ : ∃ i, ((ofTemplate t).history bs).pastEnd = some i := by
    refine Option.isSome_iff_exists.1 (reflects.pastEnd.2 ?_)
    rwa [same]
  obtain ⟨beyond, largest⟩ := (history_marks t bs).marked i mark
  obtain ⟨forgotten, split⟩ := putSince_split t.slots bs
  have reported := values_pastEnd mark
  rw [Statement.id, same] at reported
  rw [same] at beyond
  refine ⟨i, forgotten, reported, beyond, largest, split, ⟨?_, ?_⟩, fun fits => ?_⟩
  · rintro ⟨_, above⟩ ⟨j, v⟩ hp
    refine above ⟨v, ?_⟩
    rw [split]
    exact List.mem_append_right _ hp
  · intro nearer
    rw [split, indices_append]
    refine ⟨.inl largest.1, ?_⟩
    rintro j (hj | ⟨v, hv⟩)
    · exact largest.2 hj
    · exact nearer _ hv
  · rwa [← putAfresh_eq_putSince fits]

/-- A value far past the one slot, then two values at once. -/
def overfilledLate : List Binding := [.set 5 (.int 1), .setAll [.int 1, .int 2]]

theorem reports_largest_put_afresh_overfilled :
    let t : Template := ⟨1, "SELECT ?", .both⟩
    let s := (ofTemplate t).history overfilledLate
    (∃ p ∈ putSince overfilledLate, t.slots ≤ p.1) ∧
      s.values = .error (.binding (.pastEnd 1 1 1)) ∧
      IsGreatest (indices (putAfresh t.slots overfilledLate)) 1 ∧
      IsGreatest (indices (putSince overfilledLate)) 5 := by
  intro t s
  have five : (5, .int 1) ∈ putSince overfilledLate := by
    simp [overfilledLate, putSince, isClear, puts]
  obtain ⟨i, forgotten, reported, -, largest, -⟩ :=
    reports_largest_put_afresh t overfilledLate ⟨_, five, by decide⟩
  have slots : t.slots = 1 := by decide
  have mark : s.pastEnd = some 1 := by decide
  obtain rfl : i = 1 := by
    rw [values_pastEnd mark] at reported
    simp only [Except.error.injEq, PoolError.binding.injEq, BindingProblem.pastEnd.injEq] at reported
    exact reported.2.2.symm
  rw [slots] at reported
  refine ⟨⟨_, five, by decide⟩, reported, largest, ⟨_, five⟩, ?_⟩
  rintro j ⟨v, hv⟩
  have within : ∀ p ∈ putSince overfilledLate, p.1 ≤ 5 := by
    simp [overfilledLate, putSince, isClear, puts]
  exact within _ hv

end Statement
end QueryPool
