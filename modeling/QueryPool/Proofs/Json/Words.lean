import Mathlib.Data.List.TakeDrop
import QueryPool.Json.Parser
import QueryPool.Json.Printer

namespace QueryPool.Json

section Strings

theorem hexValue_digitChar : ∀ d < 16, hexValue d.digitChar = some d := by decide

theorem hexDigits_control :
    ∀ n < 0x20, (Text.hexDigits n).leftpad 4 '0' =
      ['0', '0', (n / 16).digitChar, (n % 16).digitChar] := by
  decide

theorem hexWord_control {n : Nat} (h : n < 0x20) (s : List Char) :
    hexWord ((Text.hexDigits n).leftpad 4 '0' ++ s) = .ok (n, s) := by
  have high := hexValue_digitChar (n / 16) (by omega)
  have low := hexValue_digitChar (n % 16) (by omega)
  have zero : hexValue '0' = some 0 := rfl
  simp only [hexDigits_control n h, List.cons_append, List.nil_append, hexWord, zero, high, low]
  congr
  omega

theorem escape_control {c : Char} (h : c.toNat < 0x20) (s : List Char) :
    escape ('u' :: (Text.hexDigits c.toNat).leftpad 4 '0' ++ s) = .ok (c, s) := by
  have whole : isTrailing c.toNat = false ∧ isLeading c.toNat = false := by
    simp [isTrailing, isLeading]
    omega
  simp only [List.cons_append, escape, hexWord_control h, whole.1, whole.2]
  simp

theorem stringTail_quote (s : List Char) : stringTail ('"' :: s) = .ok ([], s) := by
  rw [stringTail]

theorem stringTail_escape {c : Char} {s r : List Char} (h : escape s = .ok (c, r)) :
    stringTail ('\\' :: s) = (stringTail r).map fun (cs, r) => (c :: cs, r) := by
  rw [stringTail]
  split
  · next he =>
    rw [h] at he
    cases he
  · next he =>
    rw [h] at he
    cases he
    rfl

theorem stringTail_plain {c : Char} (quote : c ≠ '"') (slash : c ≠ '\\') (h : ¬c.toNat < 0x20)
    (s : List Char) :
    stringTail (c :: s) = (stringTail s).map fun (cs, r) => (c :: cs, r) := by
  rw [stringTail, if_neg h]
  · exact quote
  · exact slash

/-- Every character is read back, with or without an escape. -/
theorem stringTail_escapeChar (c : Char) (s : List Char) :
    stringTail (escapeChar c ++ s) = (stringTail s).map fun (cs, r) => (c :: cs, r) := by
  rw [escapeChar.eq_def]
  split
  case h_8 quote slash _ _ _ _ _ =>
    split
    · next control => exact stringTail_escape (escape_control control s)
    · next plain => exact stringTail_plain quote slash plain s
  all_goals exact stringTail_escape rfl

theorem readString_write (s : String) (r : List Char) :
    readString (s.toList.flatMap escapeChar ++ '"' :: r) = .ok (s, r) := by
  have chars (cs : List Char) : stringTail (cs.flatMap escapeChar ++ '"' :: r) = .ok (cs, r) := by
    induction cs with
    | nil => exact stringTail_quote r
    | cons c cs ih =>
      rw [List.flatMap_cons, List.append_assoc, stringTail_escapeChar, ih]
      rfl
  rw [readString, chars]
  simp [Except.map]

end Strings

section Integers

/-- What can follow a value: the end of the text, or a mark of the container the value lies in. -/
def Ended (s : List Char) : Prop := ∀ c ∈ s.head?, c = ',' ∨ c = ']' ∨ c = '\x7d'

theorem ended_nil : Ended [] := nofun

variable {r : List Char}

theorem Ended.fractionPart (h : Ended r) (f : Fault) : fractionPart f r = .ok ([], r) := by
  cases r with
  | nil => rfl
  | cons c r => obtain rfl | rfl | rfl := h c rfl <;> rfl

theorem Ended.exponentPart (h : Ended r) (f : Fault) : exponentPart f r = .ok (none, r) := by
  cases r with
  | nil => rfl
  | cons c r => obtain rfl | rfl | rfl := h c rfl <;> rfl

theorem Ended.digitRun (h : Ended r) {ds : List Char} (digit : ∀ c ∈ ds, c.isDigit) :
    digitRun (ds ++ r) = (ds, r) := by
  have stop : r.takeWhile Char.isDigit = [] ∧ r.dropWhile Char.isDigit = r := by
    cases r with
    | nil => exact ⟨rfl, rfl⟩
    | cons c r => obtain rfl | rfl | rfl := h c rfl <;> exact ⟨rfl, rfl⟩
  rw [Json.digitRun, List.span_eq_takeWhile_dropWhile, List.takeWhile_append_of_pos digit,
    List.dropWhile_append_of_pos digit, stop.1, stop.2, List.append_nil]

/-- No written number has a zero in front that a reader would refuse. -/
theorem Ended.wholePart (h : Ended r) (f : Fault) (n : Nat) :
    wholePart f (Text.digits n ++ r) = .ok (Text.digits n, r) := by
  have run := h.digitRun fun _ => Text.isDigit_of_mem_digits (n := n)
  have read : someDigits f (Text.digits n ++ r) = .ok (Text.digits n, r) := by
    rw [someDigits, run]
    split
    · next nil => exact absurd (congrArg Prod.fst nil) (Text.digits_ne_nil n)
    · next nil => exact absurd (congrArg Prod.fst nil) (Text.digits_ne_nil n)
    · next heq => rw [← heq]
  rw [Json.wholePart, read]
  split
  · next d e ds s heq =>
    have hd : Text.digits n = d :: e :: ds := by
      injection heq with heq
      exact congrArg Prod.fst heq
    have nonzero : 0 < n := by
      apply Nat.pos_of_ne_zero
      rintro rfl
      cases hd
    rw [if_neg, heq]
    rintro rfl
    exact Text.head_digits nonzero (congrArg List.head? hd)
  · rfl

theorem Ended.numeral (h : Ended r) (f : Fault) (n : Nat) :
    numeral f (Text.digits n ++ r) = .ok (⟨Text.digits n, [], none⟩, r) := by
  simp only [Json.numeral, bind, Except.bind, h.wholePart, h.fractionPart, h.exponentPart]
  rfl

theorem absorb_of_lt (ds : List Char) (n : Nat) (h : Nat.ofDigitChars 10 ds n < UInt64.size) :
    absorb n ds = (Nat.ofDigitChars 10 ds n, []) := by
  induction ds generalizing n with
  | nil => rfl
  | cons d ds ih =>
    have next : n * 10 + Text.digitValue d = 10 * n + (d.toNat - '0'.toNat) := by
      rw [Nat.mul_comm, Text.digitValue]
    rw [Nat.ofDigitChars_cons, ← next] at h ⊢
    have grows : n * 10 + Text.digitValue d < UInt64.size := by
      rw [Nat.ofDigitChars_eq_ofDigitChars_zero] at h
      have := Nat.le_mul_of_pos_left (n * 10 + Text.digitValue d)
        (Nat.pow_pos (n := ds.length) (show 0 < 10 by decide))
      omega
    rw [absorb]
    simp only [grows, ↓reduceIte]
    exact ih _ h

theorem absorb_digits {n : Nat} (h : n < UInt64.size) : absorb 0 (Text.digits n) = (n, []) := by
  have value : Nat.ofDigitChars 10 (Text.digits n) 0 = n := Text.digitsValue_digits n
  rw [absorb_of_lt _ _ (by rwa [value]), value]

theorem readNumber_unsigned {n : Nat} (h : n < UInt64.size) (hr : Ended r) :
    readNumber false (Text.digits n ++ r) = .ok (.integer n, r) := by
  simp only [readNumber, hr.numeral, Numeral.value]
  simp [absorb_digits h, bind, Except.bind, pure, Except.pure]

theorem readNumber_negative {n : Nat} (hn : 0 < n) (h : n ≤ 0x8000000000000000) (hr : Ended r) :
    readNumber true (Text.digits n ++ r) = .ok (.integer (-n), r) := by
  have fits : n < UInt64.size := Nat.lt_of_le_of_lt h (by decide)
  simp only [readNumber, hr.numeral, Numeral.value]
  simp [absorb_digits fits, bind, Except.bind, pure, Except.pure, hn, h]

end Integers

end QueryPool.Json
