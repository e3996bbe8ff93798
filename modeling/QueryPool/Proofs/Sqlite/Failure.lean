import Mathlib.Data.List.Infix
import QueryPool.Sqlite.Failure
import QueryPool.Text.Digits

namespace QueryPool

namespace Text

variable {p w s t : List Char}

/-- No ending of the one text begins like the other. -/
def Apart (p w : List Char) : Prop :=
  (∀ x ∈ p.tails, x ≠ [] → ¬x <+: w ∧ ¬w <+: x) ∧ ∀ x ∈ w.tails, x ≠ [] → ¬x <+: p ∧ ¬p <+: x

instance (p w : List Char) : Decidable (Apart p w) := inferInstanceAs (Decidable (_ ∧ _))

theorem infix_of_infix_append (h : ∀ x, x <:+ w → x ≠ [] → ¬x <+: p ∧ ¬p <+: x)
    (found : p <:+: w ++ t) : p <:+: t := by
  induction w with
  | nil => exact found
  | cons c w ih =>
    rw [List.cons_append, List.infix_cons_iff] at found
    cases found with
    | inl here =>
      have whole := h (c :: w) List.suffix_rfl (by simp)
      cases List.prefix_or_prefix_of_prefix here (List.prefix_append (c :: w) t) with
      | inl inside => exact absurd inside whole.2
      | inr begun => exact absurd begun whole.1
    | inr later =>
      apply ih _ later
      intro x suffix
      exact h x (suffix.trans (List.suffix_cons c w))

/-- A text apart from what stands between two others is found in one of them or nowhere. -/
theorem infix_around_iff (h : Apart p w) : p <:+: s ++ (w ++ t) ↔ p <:+: s ∨ p <:+: t := by
  constructor
  · intro found
    induction s with
    | nil =>
      rw [List.nil_append] at found
      right
      apply infix_of_infix_append _ found
      intro x suffix
      exact h.2 x ((List.mem_tails x w).mpr suffix)
    | cons c s ih =>
      rw [List.cons_append, List.infix_cons_iff] at found
      cases found with
      | inl here =>
        cases List.prefix_or_prefix_of_prefix here (List.prefix_append (c :: s) (w ++ t)) with
        | inl inside => exact .inl inside.isInfix
        | inr begun =>
          -- the text goes on with `x` where the words between begin
          obtain ⟨x, rfl⟩ := begun
          cases x with
          | nil => simp
          | cons d x =>
            have cut := h.1 (d :: x) (by simp) (by simp)
            have ahead : d :: x <+: w ++ t := (List.prefix_append_right_inj (c :: s)).mp here
            cases List.prefix_or_prefix_of_prefix ahead (List.prefix_append w t) with
            | inl inside => exact absurd inside cut.1
            | inr begun => exact absurd begun cut.2
      | inr later =>
        cases ih later with
        | inl inside => exact .inl (List.infix_cons inside)
        | inr after => exact .inr after
  · intro found
    cases found with
    | inl inside => exact inside.trans (List.prefix_append s (w ++ t)).isInfix
    | inr after =>
      have ending : t <:+ s ++ (w ++ t) := (List.suffix_append w t).trans (List.suffix_append s _)
      exact after.trans ending.isInfix

end Text

namespace Sqlite.Failure

/-- What a message is searched for. -/
def phrases : List String :=
  ["no such table", "no such column", "has no column named", "syntax error", "incomplete input"]

theorem phrases_apart : ∀ p ∈ phrases, Text.Apart p.toList " in ".toList ∧
    Text.Apart p.toList " at offset ".toList ∧ p.toList.all Char.isDigit = false := by
  decide +kernel

theorem message_placed (m sql : String) (n : Nat) : (placed m sql n).message.toList =
    m.toList ++ (" in ".toList ++ (sql.toList ++ (" at offset ".toList ++ Text.digits n))) := by
  change (m ++ " in " ++ sql ++ " at offset " ++ n.repr).toList = _
  simp only [String.toList_append, List.append_assoc, Nat.toList_repr, Text.digits]

theorem occurs_placed {p : String} (h : p ∈ phrases) (m sql : String) (n : Nat) :
    Text.occurs p (placed m sql n).message = (Text.occurs p m || Text.occurs p sql) := by
  obtain ⟨first, second, worded⟩ := phrases_apart p h
  have number : ¬p.toList <:+: Text.digits n := by
    intro found
    have digits : p.toList.all Char.isDigit = true :=
      List.all_eq_true.mpr fun c hc => Text.isDigit_of_mem_digits (found.subset hc)
    rw [worded] at digits
    cases digits
  rw [Bool.eq_iff_iff, Bool.or_eq_true, Text.occurs_iff, Text.occurs_iff, Text.occurs_iff,
    message_placed, Text.infix_around_iff first, Text.infix_around_iff second]
  simp [number]

/-- Of the codes of two messages, the one whose phrases are looked for first. -/
def foremost (a b : Nat) : Nat :=
  if a = Code.unknownTable ∨ b = Code.unknownTable then Code.unknownTable
  else if a = Code.unknownColumn ∨ b = Code.unknownColumn then Code.unknownColumn
  else if a = Code.parse ∨ b = Code.parse then Code.parse
  else Code.unknown

theorem code_placed (m sql : String) (n : Nat) :
    (placed m sql n).code = foremost (codeOfMessage m) (codeOfMessage sql) := by
  have table := occurs_placed (p := "no such table") (by simp [phrases]) m sql n
  have column := occurs_placed (p := "no such column") (by simp [phrases]) m sql n
  have named := occurs_placed (p := "has no column named") (by simp [phrases]) m sql n
  have malformed := occurs_placed (p := "syntax error") (by simp [phrases]) m sql n
  have unfinished := occurs_placed (p := "incomplete input") (by simp [phrases]) m sql n
  change codeOfMessage (placed m sql n).message = _
  rw [codeOfMessage, table, column, named, malformed, unfinished, codeOfMessage, codeOfMessage,
    foremost]
  grind [Code.unknownTable, Code.unknownColumn, Code.parse, Code.unknown]

theorem codeOfMessage_mem (m : String) :
    codeOfMessage m ∈ [Code.unknownTable, Code.unknownColumn, Code.parse, Code.unknown] := by
  grind [codeOfMessage]

theorem codeOfMessage_ne_unknown_iff (m : String) :
    codeOfMessage m ≠ Code.unknown ↔ ∃ p ∈ phrases, Text.occurs p m := by
  rw [codeOfMessage]
  simp only [phrases, List.mem_cons, List.not_mem_nil, or_false, exists_eq_or_imp, exists_eq_left]
  grind [Code.unknownTable, Code.unknownColumn, Code.parse, Code.unknown]

theorem foremost_unknown (m : String) :
    foremost (codeOfMessage m) Code.unknown = codeOfMessage m := by
  have known := codeOfMessage_mem m
  generalize codeOfMessage m = a at known ⊢
  revert known a
  decide

theorem kind_foremost (m sql : String) :
    ErrorClass.ofCode (foremost (codeOfMessage m) (codeOfMessage sql)) = .schema ↔
      codeOfMessage m ≠ Code.unknown ∨ codeOfMessage sql ≠ Code.unknown := by
  have known := codeOfMessage_mem m
  have quoted := codeOfMessage_mem sql
  generalize codeOfMessage m = a at known ⊢
  generalize codeOfMessage sql = b at quoted ⊢
  revert known quoted a b
  decide

/-- A failure that names its place is told by whichever phrase is looked for first, be it in the
engine's message or in the statement. So the message decides alone only if it says that a table is
missing, and a phrase anywhere in the statement makes the failure one of the schema. The offset
never counts. -/
theorem statement_searched_too (m : String) :
    (∀ sql n, (placed m sql n).code = foremost (codeOfMessage m) (codeOfMessage sql)) ∧
    ((∀ sql n sql' n', (placed m sql n).code = (placed m sql' n').code) ↔
      codeOfMessage m = Code.unknownTable) ∧
    ∀ sql n, (placed m sql n).native.kind = .schema ↔
      ∃ p ∈ phrases, Text.occurs p m ∨ Text.occurs p sql := by
  refine ⟨code_placed m, ⟨?_, ?_⟩, ?_⟩
  · intro alone
    have same := alone "" 0 "no such table" 0
    have silent : codeOfMessage "" = Code.unknown := by decide
    have named : codeOfMessage "no such table" = Code.unknownTable := by decide
    rw [code_placed, code_placed, silent, named, foremost_unknown] at same
    rw [same, foremost, if_pos (.inr rfl)]
  · intro missing sql n sql' n'
    rw [code_placed, code_placed, missing, foremost, foremost, if_pos (.inl rfl), if_pos (.inl rfl)]
  · intro sql n
    rw [native, NativeError.kind, code_placed, kind_foremost, codeOfMessage_ne_unknown_iff,
      codeOfMessage_ne_unknown_iff, ← exists_or]
    simp only [← and_or_left]

/-- A string in the statement makes a call of an unknown function a failure of the schema. -/
theorem unknown_function_taken_for_schema :
    (placed "no such function: nope" "SELECT nope(1)" 7).native.kind = .other ∧
    (placed "no such function: nope" "SELECT nope('no such table')" 7).native.kind = .schema := by
  decide

end Sqlite.Failure
end QueryPool
