namespace QueryPool.Text

def digits (n : Nat) : List Char := Nat.toDigits 10 n

/-- Zeros on the left up to `width` characters; a longer number keeps its length. -/
def padded (width n : Nat) : List Char := (digits n).leftpad width '0'

def hexDigits (n : Nat) : List Char := Nat.toDigits 16 n

def digitValue (c : Char) : Nat := c.toNat - '0'.toNat

def digitsValue (s : List Char) : Nat := Nat.ofDigitChars 10 s 0

theorem digitsValue_digits (n : Nat) : digitsValue (digits n) = n :=
  Nat.ofDigitChars_toDigits (by decide) (by decide)

theorem isDigit_of_mem_digits {n : Nat} {c : Char} (h : c ∈ digits n) : c.isDigit :=
  Nat.isDigit_of_mem_toDigits (by decide) (by decide) h

theorem digits_ne_nil (n : Nat) : digits n ≠ [] := Nat.toDigits_ne_nil

theorem digits_eq_cons (n : Nat) : ∃ d ds, digits n = d :: ds ∧ d.isDigit := by
  cases hd : digits n with
  | nil => exact absurd hd (digits_ne_nil n)
  | cons d ds => exact ⟨d, ds, rfl, isDigit_of_mem_digits (hd ▸ List.mem_cons_self)⟩

/-- No number but zero begins with a zero. -/
theorem head_digits {n : Nat} (h : 0 < n) : (digits n).head? ≠ some '0' := by
  induction n using Nat.strongRecOn with
  | ind n ih =>
    by_cases small : n < 10
    · simp [digits, Nat.toDigits_of_lt_base small]
      omega
    · have tail := ih (n / 10) (by omega) (by omega)
      have first : (digits n).head? = (digits (n / 10)).head? := by
        rw [digits, Nat.toDigits_of_base_le (by decide) (by omega), List.head?_append, ← digits,
          List.head?_eq_some_head (digits_ne_nil _), Option.some_or]
      rwa [first]

theorem digitsValue_padded (width n : Nat) : digitsValue (padded width n) = n := by
  rw [digitsValue, padded, List.leftpad, Nat.ofDigitChars_append,
    Nat.ofDigitChars_replicate_zero, Nat.mul_zero]
  exact digitsValue_digits n

theorem isDigit_of_mem_padded {width n : Nat} {c : Char} (h : c ∈ padded width n) : c.isDigit := by
  obtain pad | digit := List.mem_append.mp h
  · rw [List.eq_of_mem_replicate pad]
    rfl
  · exact isDigit_of_mem_digits digit

theorem padded_ne_nil (width n : Nat) : padded width n ≠ [] :=
  List.append_ne_nil_of_right_ne_nil _ (digits_ne_nil n)

theorem padded_eq_cons (width n : Nat) : ∃ d ds, padded width n = d :: ds ∧ d.isDigit := by
  cases hp : padded width n with
  | nil => exact absurd hp (padded_ne_nil width n)
  | cons d ds => exact ⟨d, ds, rfl, isDigit_of_mem_padded (hp ▸ List.mem_cons_self)⟩

/-- A number without a sign: one digit or more and nothing else. -/
def natural? (s : List Char) : Option Nat :=
  if s ≠ [] ∧ s.all Char.isDigit then some (digitsValue s) else none

theorem digitChar_digitValue {c : Char} (h : c.isDigit) :
    digitValue c < 10 ∧ Nat.digitChar (digitValue c) = c := by
  simp only [Char.isDigit, Bool.and_eq_true, decide_eq_true_eq, ge_iff_le,
    UInt32.le_iff_toNat_le] at h
  have low : 48 ≤ c.toNat := h.1
  have high : c.toNat ≤ 57 := h.2
  have value : digitValue c + 48 = c.toNat := Nat.sub_add_cancel low
  have small : digitValue c < 10 := by omega
  refine ⟨small, Char.toNat_inj.1 ?_⟩
  rw [Nat.toNat_digitChar_of_lt_ten small]
  omega

/-- Digits behind a number that is not zero go on with it. -/
theorem digits_append {m : Nat} (hm : 0 < m) {s : List Char} (hs : ∀ c ∈ s, c.isDigit) :
    digits m ++ s = digits (Nat.ofDigitChars 10 s m) := by
  induction s generalizing m with
  | nil => simp
  | cons c s ih =>
    obtain ⟨small, written⟩ := digitChar_digitValue (hs c (by simp))
    have next := Nat.toDigits_append_toDigits (by decide) hm small
    rw [Nat.toDigits_of_lt_base small, written] at next
    have rest := ih (m := 10 * m + digitValue c) (by omega) fun d hd => hs d (by simp [hd])
    calc digits m ++ c :: s = (digits m ++ [c]) ++ s := by simp
      _ = digits (10 * m + digitValue c) ++ s := congrArg (· ++ s) next
      _ = digits (Nat.ofDigitChars 10 (c :: s) m) := rest

theorem padded_succ {width n : Nat} (h : (padded width n).length = width) :
    padded (width + 1) n = '0' :: padded width n := by
  have short : (digits n).length ≤ width := by
    rw [padded, List.length_leftpad] at h
    omega
  rw [padded, padded, List.leftpad, List.leftpad, Nat.succ_sub short]
  rfl

/-- Digits are the number that they stand for, with zeros before it. -/
theorem padded_digitsValue {s : List Char} (ne : s ≠ []) (hs : ∀ c ∈ s, c.isDigit) :
    padded s.length (digitsValue s) = s := by
  induction s with
  | nil => exact absurd rfl ne
  | cons c s ih =>
    have tail : ∀ d ∈ s, d.isDigit := fun d hd => hs d (by simp [hd])
    obtain ⟨small, written⟩ := digitChar_digitValue (hs c (by simp))
    have value : digitsValue (c :: s) = Nat.ofDigitChars 10 s (digitValue c) := by
      rw [digitsValue, Nat.ofDigitChars_cons, Nat.mul_zero, Nat.zero_add]
      rfl
    by_cases zero : digitValue c = 0
    · rw [value, zero, ← written, zero]
      cases s with
      | nil => rfl
      | cons d s =>
        have rest : padded (d :: s).length (digitsValue (d :: s)) = d :: s := ih (by simp) tail
        have next := padded_succ (congrArg List.length rest)
        rw [rest] at next
        exact next
    · have one : digits (digitValue c) = [c] := by
        rw [digits, Nat.toDigits_of_lt_base small, written]
      have all := digits_append (Nat.pos_of_ne_zero zero) tail
      rw [one, List.singleton_append] at all
      rw [value, padded, ← all, List.leftpad, Nat.sub_self]
      rfl

/-- What is read as a number is the number with zeros before it. -/
theorem natural?_eq_some_iff {s : List Char} {n : Nat} :
    natural? s = some n ↔ ∃ width, s = padded width n := by
  constructor
  · intro h
    rw [natural?, Option.ite_none_right_eq_some] at h
    obtain ⟨⟨ne, digits⟩, hn⟩ := h
    cases hn
    exact ⟨s.length, (padded_digitsValue ne (List.all_eq_true.1 digits)).symm⟩
  · rintro ⟨width, rfl⟩
    have digits : (padded width n).all Char.isDigit = true :=
      List.all_eq_true.2 fun c hc => isDigit_of_mem_padded hc
    rw [natural?, if_pos ⟨padded_ne_nil width n, digits⟩, digitsValue_padded]

/-- A number with at most one plus sign before it and no larger than `limit`. -/
def bounded? (limit : Nat) (s : List Char) : Option Nat :=
  (natural? (match s with | '+' :: r => r | _ => s)).filter (· ≤ limit)

theorem bounded?_digits (limit n : Nat) :
    bounded? limit (digits n) = if n ≤ limit then some n else none := by
  obtain ⟨d, ds, hd, digit⟩ := digits_eq_cons n
  have number : natural? (digits n) = some n :=
    natural?_eq_some_iff.2 ⟨0, by simp [padded, List.leftpad]⟩
  rw [hd] at number ⊢
  unfold bounded?
  split
  · rename_i heq
    cases heq
    cases digit
  · rw [number, Option.filter_some]
    simp

end QueryPool.Text
