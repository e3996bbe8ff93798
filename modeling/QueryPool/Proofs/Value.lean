import QueryPool.Value.Convert
import QueryPool.Value.Views

namespace QueryPool.Value

/-- The number that a value holds, signed or not. -/
def number? : Value → Option Int
  | int n => some n.toInt
  | uint n => some n.toNat
  | _ => none

section Convert

theorem number?_ofSigned {n : Int} (low : Int64.minValue.toInt ≤ n)
    (high : n ≤ Int64.maxValue.toInt) : (ofSigned n).number? = some n := by
  rw [Int64.toInt_minValue] at low
  rw [Int64.toInt_maxValue] at high
  exact congrArg some (Int64.toInt_ofInt_of_le low (by omega))

theorem number?_ofUnsigned {n : Nat} (h : n < UInt64.size) : (ofUnsigned n).number? = some n :=
  congrArg (some ∘ Int.ofNat) (UInt64.toNat_ofNat_of_lt' h)

end Convert

section Words

theorem fits_iff {m : UInt64} :
    m ≤ Int64.maxValue.toUInt64 ↔ (m.toNat : Int) ≤ Int64.maxValue.toInt := by
  have largest : Int64.maxValue.toUInt64.toNat = 0x7FFFFFFFFFFFFFFF := rfl
  rw [UInt64.le_iff_toNat_le, largest, Int64.toInt_maxValue]
  omega

theorem toInt_toInt64 {m : UInt64} (h : m ≤ Int64.maxValue.toUInt64) :
    m.toInt64.toInt = m.toNat := by
  have small : m.toBitVec.toNat ≤ 0x7FFFFFFFFFFFFFFF := UInt64.le_iff_toNat_le.mp h
  exact BitVec.toInt_eq_toNat_of_lt (x := m.toBitVec) (by omega)

end Words

section Views

variable {v : Value} {n : Int}

/-- A signed view shows the numbers that a signed word holds, however they were put in. -/
theorem toInt?_of_number (h : v.number? = some n) :
    v.toInt?.map Int64.toInt = if n ≤ Int64.maxValue.toInt then some n else none := by
  cases v with
  | int m =>
    cases h
    exact (if_pos m.toInt_le).symm
  | uint m =>
    cases h
    by_cases fits : m ≤ Int64.maxValue.toUInt64
    · rw [toInt?, if_pos fits, if_pos (fits_iff.1 fits)]
      exact congrArg some (toInt_toInt64 fits)
    · rw [toInt?, if_neg fits, if_neg (mt fits_iff.2 fits)]
      rfl
  | _ => cases h

/-- An unsigned view shows the numbers that are not negative. -/
theorem toUInt?_of_number (h : v.number? = some n) :
    v.toUInt?.map UInt64.toNat = if 0 ≤ n then some n.toNat else none := by
  cases v with
  | int m =>
    cases h
    have sign : 0 ≤ m ↔ 0 ≤ m.toInt := Int64.le_iff_toInt_le
    by_cases natural : 0 ≤ m
    · rw [toUInt?, if_pos natural, if_pos (sign.1 natural), Option.map_some,
        Int64.toNat_toUInt64_of_le natural, Int64.toNat_toInt]
    · rw [toUInt?, if_neg natural, if_neg (mt sign.2 natural)]
      rfl
  | uint m =>
    cases h
    simp [toUInt?]
  | _ => cases h

/-- One and zero are truth values, signed or not. -/
theorem toBool?_of_number (h : v.number? = some n) :
    v.toBool? = if n = 1 then some true else if n = 0 then some false else none := by
  cases v with
  | int m =>
    cases h
    have one : m = 1 ↔ m.toInt = 1 := Int64.toInt_inj.symm
    have zero : m = 0 ↔ m.toInt = 0 := Int64.toInt_inj.symm
    simp only [toBool?, one, zero]
  | uint m =>
    cases h
    have one : m = 1 ↔ (m.toNat : Int) = 1 := by
      rw [← UInt64.toNat_inj]
      exact Int.natCast_inj.symm
    have zero : m = 0 ↔ (m.toNat : Int) = 0 := by
      rw [← UInt64.toNat_inj]
      exact Int.natCast_inj.symm
    simp only [toBool?, one, zero]
  | _ => cases h

end Views

end QueryPool.Value
