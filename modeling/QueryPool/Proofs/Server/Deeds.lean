import Mathlib.Data.List.Basic
import Mathlib.Data.List.Induction
import QueryPool.Server.Session

namespace QueryPool

/-- What a call on a session came to. -/
inductive Act where
  | ran (text : String)
  | began
  | committed
  | rolledBack
  | dropped
  deriving DecidableEq

namespace Act

def text? : Act → Option String
  | ran text => some text
  | _ => none

/-- The statements of the open transaction after the act, from those before it. -/
def pending : Act → Option (List String) → Option (List String)
  | ran text, p => p.map (· ++ [text])
  | began, _ => some []
  | _, _ => none

/-- What the act makes visible, if these are the statements of the open transaction. -/
def shows : Act → Option (List String) → List String
  | ran text, none => [text]
  | committed, some p => p
  | _, _ => []

end Act

structure Deed where
  session : Nat
  act : Act
  deriving DecidableEq

namespace Deed

variable {log : List Deed} {d : Deed} {i p : Nat}

def text? (d : Deed) : Option String := d.act.text?

/-- A statement that session `i` ran. -/
def runs (i : Nat) (d : Deed) : Bool := d.session = i && d.text?.isSome

/-- A deed of session `i` with which a transaction begins or ends. -/
def bounds (i : Nat) (d : Deed) : Bool := d.session = i && d.text?.isNone

/-- Whether session `i` is inside a transaction after these deeds. -/
def opened (log : List Deed) (i : Nat) : Bool :=
  (log.reverse.find? (bounds i)).any (·.act = .began)

/-- The places of the statements that session `i` ran since its last transaction began or ended. -/
def since (log : List Deed) (i : Nat) : List Nat :=
  (List.range log.length).filter fun p =>
    log[p]?.any (runs i) && ((log.drop (p + 1)).find? (bounds i)).isNone

/-- The places of the statements that a deed makes visible, in one block. -/
def block (past : List Deed) (d : Deed) : List Nat :=
  match d.act with
  | .ran _ => if opened past d.session then [] else [past.length]
  | .committed => if opened past d.session then since past d.session else []
  | .began | .rolledBack | .dropped => []

def blocks (log : List Deed) : List (List Nat) :=
  (List.range log.length).map fun p => log[p]?.elim [] (block (log.take p))

def textsAt (log : List Deed) (places : List Nat) : List String :=
  places.filterMap fun p => log[p]?.bind text?

/-- How many open transactions were ended by this act. -/
def endings (act : Act) (log : List Deed) : Nat :=
  (List.range log.length).countP fun p =>
    log[p]?.any fun d => d.act = act && opened (log.take p) d.session

/-- The statements of the transaction that session `i` is in. -/
def pendingOf (log : List Deed) (i : Nat) : Option (List String) :=
  if opened log i then some (textsAt log (since log i)) else none

theorem runs_iff : runs i d = true ↔ ∃ text, d = ⟨i, .ran text⟩ := by
  obtain ⟨j, act⟩ := d
  cases act <;> simp [runs, text?, Act.text?]

theorem bounds_of_ran (text : String) (j : Nat) : bounds j ⟨i, .ran text⟩ = false := by
  simp [bounds, text?, Act.text?]

theorem opened_concat (log : List Deed) (d : Deed) (i : Nat) :
    opened (log ++ [d]) i = if bounds i d then decide (d.act = .began) else opened log i := by
  rw [opened, List.reverse_append, List.reverse_singleton, List.singleton_append, List.find?_cons]
  cases h : bounds i d <;> simp [opened]

theorem opened_append (log later : List Deed) (quiet : later.any (bounds i) = false) :
    opened (log ++ later) i = opened log i := by
  have none : later.reverse.find? (bounds i) = none := by simpa using quiet
  rw [opened, List.reverse_append, List.find?_append, none, Option.none_or, opened]

theorem isSome_pendingOf (log : List Deed) (i : Nat) : (pendingOf log i).isSome = opened log i := by
  unfold pendingOf
  cases opened log i <;> rfl

/-- Statements after which no transaction of the session began or ended. -/
theorem mem_since : p ∈ since log i ↔
    ∃ text, log[p]? = some ⟨i, .ran text⟩ ∧ (log.drop (p + 1)).find? (bounds i) = none := by
  simp only [since, List.mem_filter, List.mem_range, Bool.and_eq_true, Option.any_eq_true, runs_iff,
    Option.isNone_iff_eq_none]
  constructor
  · intro h
    obtain ⟨_, ⟨_, here, text, rfl⟩, quiet⟩ := h
    exact ⟨text, here, quiet⟩
  · intro h
    obtain ⟨text, here, quiet⟩ := h
    exact ⟨(List.getElem?_eq_some_iff.mp here).1, ⟨_, here, text, rfl⟩, quiet⟩

theorem lt_of_mem_since (h : p ∈ since log i) : p < log.length := by
  obtain ⟨text, here, _⟩ := mem_since.mp h
  exact (List.getElem?_eq_some_iff.mp here).1

/-- Where a statement runs and nothing bounds its transaction afterwards, it is the present one. -/
theorem opened_take {text : String} (here : log[p]? = some ⟨i, .ran text⟩)
    (quiet : (log.drop (p + 1)).find? (bounds i) = none) :
    opened (log.take p) i = opened log i := by
  obtain ⟨hp, ran⟩ := List.getElem?_eq_some_iff.mp here
  have split : log = log.take p ++ ⟨i, .ran text⟩ :: log.drop (p + 1) := by
    rw [← ran, List.getElem_cons_drop hp, List.take_append_drop]
  have still : (⟨i, .ran text⟩ :: log.drop (p + 1)).any (bounds i) = false := by
    rw [List.any_cons, bounds_of_ran, Bool.false_or]
    simpa using quiet
  conv_rhs => rw [split]
  exact (opened_append _ _ still).symm

theorem since_concat (log : List Deed) (d : Deed) (i : Nat) :
    since (log ++ [d]) i =
      if bounds i d then [] else since log i ++ if runs i d then [log.length] else [] := by
  have before : (List.range log.length).filter (fun p => (log ++ [d])[p]?.any (runs i) &&
      (((log ++ [d]).drop (p + 1)).find? (bounds i)).isNone) =
        if bounds i d then [] else since log i := by
    cases hb : bounds i d with
    | true =>
      apply List.filter_eq_nil_iff.mpr
      intro p hp
      have hp := List.mem_range.mp hp
      simp [List.drop_append_of_le_length (Nat.succ_le_of_lt hp), hb]
    | false =>
      apply List.filter_congr
      intro p hp
      have hp := List.mem_range.mp hp
      rw [List.getElem?_append_left hp, List.drop_append_of_le_length (Nat.succ_le_of_lt hp)]
      simp [hb]
  rw [since, List.length_append, List.length_singleton, List.range_succ, List.filter_append, before]
  cases hr : runs i d with
  | true =>
    obtain ⟨text, rfl⟩ := runs_iff.mp hr
    simp [bounds_of_ran, hr]
  | false => simp [hr]

theorem blocks_concat (log : List Deed) (d : Deed) :
    blocks (log ++ [d]) = blocks log ++ [block log d] := by
  rw [blocks, List.length_append, List.length_singleton, List.range_succ, List.map_append, blocks]
  congr 1
  · apply List.map_congr_left
    intro p hp
    have hp := List.mem_range.mp hp
    rw [List.getElem?_append_left hp, List.take_append_of_le_length (Nat.le_of_lt hp)]
  · simp

theorem endings_concat (act : Act) (log : List Deed) (d : Deed) : endings act (log ++ [d]) =
    endings act log + if d.act = act ∧ opened log d.session = true then 1 else 0 := by
  rw [endings, List.length_append, List.length_singleton, List.range_succ, List.countP_append,
    endings]
  congr 1
  · apply List.countP_congr
    intro p hp
    have hp := List.mem_range.mp hp
    rw [List.getElem?_append_left hp, List.take_append_of_le_length (Nat.le_of_lt hp)]
  · simp [List.countP_cons]

theorem textsAt_concat {places : List Nat} (inside : ∀ p ∈ places, p < log.length) :
    textsAt (log ++ [d]) places = textsAt log places := by
  apply List.filterMap_congr
  intro p hp
  rw [List.getElem?_append_left (inside p hp)]

theorem mem_block : p ∈ block log d ↔
    (∃ text, d.act = .ran text ∧ opened log d.session = false ∧ p = log.length) ∨
    (d.act = .committed ∧ opened log d.session = true ∧ p ∈ since log d.session) := by
  obtain ⟨i, act⟩ := d
  cases act <;> cases h : opened log i <;> simp [block, h]

/-- The statement at place `p` ran outside a transaction, or its session's next deed that begins or
ends a transaction is a commit. -/
def Shown (log : List Deed) (p : Nat) : Prop :=
  ∃ i text, log[p]? = some ⟨i, .ran text⟩ ∧
    (opened (log.take p) i = true → (log.drop (p + 1)).find? (bounds i) = some ⟨i, .committed⟩)

theorem lt_of_shown (h : Shown log p) : p < log.length := by
  obtain ⟨_, _, here, _⟩ := h
  exact (List.getElem?_eq_some_iff.mp here).1

theorem shown_last :
    Shown (log ++ [d]) log.length ↔ ∃ text, d.act = .ran text ∧ opened log d.session = false := by
  have here : (log ++ [d])[log.length]? = some d := by simp
  have none : (log ++ [d]).drop (log.length + 1) = [] := List.drop_eq_nil_of_le (by simp)
  simp only [Shown, here, none, List.take_left', List.find?_nil, Option.some.injEq, reduceCtorEq,
    imp_false, Bool.not_eq_true]
  constructor
  · intro h
    obtain ⟨i, text, rfl, outside⟩ := h
    exact ⟨text, rfl, outside⟩
  · intro h
    obtain ⟨text, act, outside⟩ := h
    exact ⟨d.session, text, by rw [← act], outside⟩

/-- A later deed shows an earlier statement if it commits the transaction the statement is in. -/
theorem shown_earlier (hp : p < log.length) : Shown (log ++ [d]) p ↔ Shown log p ∨
    (d.act = .committed ∧ opened log d.session = true ∧ p ∈ since log d.session) := by
  simp only [Shown, List.getElem?_append_left hp, List.take_append_of_le_length (Nat.le_of_lt hp),
    List.drop_append_of_le_length (Nat.succ_le_of_lt hp), List.find?_append]
  constructor
  · intro h
    obtain ⟨i, text, here, fate⟩ := h
    cases quiet : (log.drop (p + 1)).find? (bounds i) with
    | some b =>
      rw [quiet, Option.some_or, ← quiet] at fate
      exact .inl ⟨i, text, here, fate⟩
    | none =>
      -- nothing has ended the transaction yet, so the statement's fate is this deed
      rw [quiet, Option.none_or] at fate
      cases inside : opened (log.take p) i with
      | false => exact .inl ⟨i, text, here, fun h => absurd h (by simp [inside])⟩
      | true =>
        obtain rfl := List.mem_singleton.mp (List.mem_of_find?_eq_some (fate inside))
        rw [opened_take here quiet] at inside
        exact .inr ⟨rfl, inside, mem_since.mpr ⟨text, here, quiet⟩⟩
  · intro h
    rcases h with ⟨i, text, here, fate⟩ | ⟨act, _, within⟩
    · refine ⟨i, text, here, ?_⟩
      intro inside
      rw [fate inside, Option.some_or]
    · obtain ⟨text, here, quiet⟩ := mem_since.mp within
      obtain ⟨i, act'⟩ := d
      cases act
      refine ⟨i, text, here, ?_⟩
      intro _
      rw [quiet]
      simp [bounds, text?, Act.text?]

/-- The blocks hold the statements that are visible. -/
theorem mem_blocks : p ∈ (blocks log).flatten ↔ Shown log p := by
  induction log using List.reverseRecOn with
  | nil => simp [blocks, Shown]
  | append_singleton log d ih =>
    rw [blocks_concat, List.flatten_append, List.mem_append, ih, List.flatten_singleton, mem_block]
    by_cases hp : p < log.length
    · have earlier : p ≠ log.length := by omega
      rw [shown_earlier hp]
      simp [earlier]
    · have unseen : ¬Shown log p := fun h => hp (lt_of_shown h)
      have outside : p ∉ since log d.session := fun h => hp (lt_of_mem_since h)
      by_cases last : p = log.length
      · subst last
        simp [shown_last, unseen, outside]
      · have past : ¬Shown (log ++ [d]) p := by
          intro h
          have inside := lt_of_shown h
          rw [List.length_append, List.length_singleton] at inside
          omega
        simp [past, unseen, outside, last]

@[simp] theorem textsAt_nil (log : List Deed) : textsAt log [] = [] := rfl

theorem textsAt_append (log : List Deed) (places places' : List Nat) :
    textsAt log (places ++ places') = textsAt log places ++ textsAt log places' :=
  List.filterMap_append

theorem textsAt_last (log : List Deed) (i : Nat) (text : String) :
    textsAt (log ++ [⟨i, .ran text⟩]) [log.length] = [text] := by
  simp [textsAt, text?, Act.text?]

theorem textsAt_since_concat (log : List Deed) (d : Deed) (i : Nat) :
    textsAt (log ++ [d]) (since log i) = textsAt log (since log i) := by
  apply textsAt_concat
  intro p hp
  exact lt_of_mem_since hp

theorem pendingOf_concat (log : List Deed) (d : Deed) (i : Nat) : pendingOf (log ++ [d]) i =
    if d.session = i then d.act.pending (pendingOf log i) else pendingOf log i := by
  obtain ⟨j, act⟩ := d
  unfold pendingOf
  rw [opened_concat, since_concat]
  by_cases here : j = i
  · subst here
    cases act with
    | ran text =>
      have runs : runs j ⟨j, .ran text⟩ = true := runs_iff.mpr ⟨text, rfl⟩
      have texts : textsAt (log ++ [⟨j, .ran text⟩]) (since log j ++ [log.length]) =
          textsAt log (since log j) ++ [text] := by
        rw [textsAt_append, textsAt_since_concat, textsAt_last]
      cases opened log j <;> simp [bounds_of_ran, runs, texts, Act.pending]
    | began => simp [bounds, text?, Act.text?, Act.pending]
    | committed | rolledBack | dropped => simp [bounds, text?, Act.text?, Act.pending]
  · simp [bounds, runs, here, textsAt_since_concat]

/-- What a deed adds to the visible statements. -/
theorem textsAt_blocks_concat (log : List Deed) (d : Deed) :
    textsAt (log ++ [d]) (blocks (log ++ [d])).flatten =
      textsAt log (blocks log).flatten ++ d.act.shows (pendingOf log d.session) := by
  have earlier : textsAt (log ++ [d]) (blocks log).flatten = textsAt log (blocks log).flatten := by
    apply textsAt_concat
    intro p hp
    exact lt_of_shown (mem_blocks.mp hp)
  have added : textsAt (log ++ [d]) (block log d) = d.act.shows (pendingOf log d.session) := by
    obtain ⟨i, act⟩ := d
    unfold block pendingOf
    cases opened log i with
    | false => cases act <;> simp [Act.shows, textsAt_last]
    | true => cases act <;> simp [Act.shows, textsAt_since_concat]
  rw [blocks_concat, List.flatten_append, List.flatten_singleton, textsAt_append, earlier, added]

end Deed
end QueryPool
