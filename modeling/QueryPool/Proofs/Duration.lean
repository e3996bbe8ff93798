import Mathlib.Algebra.Group.Nat.Defs
import QueryPool.Options.Basic

namespace QueryPool

namespace Duration

theorem toNat_toMillis (d : Duration) :
    d.toMillis.toNat = min (d.toNanos / 1_000_000) (UInt64.size - 1) := by
  have whole : d.toNanos / 1_000_000 = d.secs.toNat * 1000 + d.nanos / 1_000_000 := by
    unfold toNanos
    omega
  rw [toMillis, whole, UInt64.toNat_ofNat_of_lt']
  exact Nat.lt_of_le_of_lt (Nat.min_le_right _ _) (by decide)

theorem ext_toNat {d e : Duration} (secs : d.secs.toNat = e.secs.toNat) (nanos : d.nanos = e.nanos) :
    d = e := by
  obtain ⟨s, n, hn⟩ := d
  obtain ⟨s', n', hn'⟩ := e
  obtain rfl : s = s' := UInt64.toNat_inj.1 secs
  obtain rfl : n = n' := nanos
  rfl

theorem of?_eq_some {d : Duration} {secs nanos : Nat} (hs : d.secs.toNat = secs)
    (hn : d.nanos = nanos) : of? secs nanos = some d := by
  subst hs hn
  rw [of?, dif_pos ⟨d.secs.toNat_lt, d.nanos_lt⟩]
  exact congrArg some (ext_toNat (UInt64.toNat_ofNat_of_lt' d.secs.toNat_lt) rfl)

theorem secs_ofMillis (ms : UInt64) : (ofMillis ms).secs.toNat = ms.toNat / 1000 := by
  rw [ofMillis, UInt64.toNat_div]
  rfl

/-- A multiple, with the whole units carried out of the part. -/
theorem mul_carry (whole part n unit : Nat) :
    n * (whole * unit + part) = (whole * n + part * n / unit) * unit + part * n % unit := by
  calc n * (whole * unit + part)
      = whole * n * unit + part * n := by
        rw [Nat.mul_add, Nat.mul_comm n part, ← Nat.mul_assoc, Nat.mul_comm n whole]
    _ = (whole * n + part * n / unit) * unit + part * n % unit := by
        rw [Nat.add_mul, Nat.add_assoc, Nat.div_add_mod']

/-- The exact multiple, or the longest span if that is shorter. -/
theorem toNanos_times (d : Duration) (n : Nat) :
    (d.times n).toNanos = min longest.toNanos (n * d.toNanos) := by
  have multiple : n * d.toNanos = _ := mul_carry d.secs.toNat d.nanos n 1_000_000_000
  have below : d.nanos * n % 1_000_000_000 < 1_000_000_000 := Nat.mod_lt _ (by decide)
  rw [times]
  split
  · rename_i fits
    have reached : (Duration.mk (.ofNat (d.secs.toNat * n + d.nanos * n / 1_000_000_000))
        (d.nanos * n % 1_000_000_000) below).toNanos = n * d.toNanos := by
      rw [toNanos, UInt64.toNat_ofNat_of_lt' fits, multiple]
    rw [reached, ← reached, Nat.min_eq_right (toNanos_le_longest _)]
  · rename_i beyond
    have size : UInt64.size = 18446744073709551616 := rfl
    have top : longest.toNanos + 1 = UInt64.size * 1_000_000_000 := rfl
    rw [Nat.min_eq_left]
    omega

theorem times_le {d e : Duration} {m n : Nat} (spans : d.toNanos ≤ e.toNanos) (counts : m ≤ n) :
    (d.times m).toNanos ≤ (e.times n).toNanos := by
  rw [toNanos_times, toNanos_times]
  have := Nat.mul_le_mul counts spans
  omega

/-- A number in a word of so many bits, if it fits. -/
def inWord (bits n : Nat) : Option Nat := if n < 2 ^ bits then some n else none

theorem inWord_of_lt {bits n : Nat} (h : n < 2 ^ bits) : inWord bits n = some n := if_pos h

/-- Whole milliseconds are counted in 128 bits and cut down to 64. -/
def toMillisInWords (d : Duration) : Option Nat := do
  let whole ← inWord 128 (d.secs.toNat * 1000)
  let millis ← inWord 128 (whole + d.nanos / 1_000_000)
  return (inWord 64 millis).getD (UInt64.size - 1)

def ofMillisInWords (ms : Nat) : Option Duration := do
  let nanos ← inWord 32 (ms % 1000 * 1_000_000)
  of? (ms / 1000) nanos

/-- Nanoseconds are multiplied in 64 bits, which have to do; seconds that do not fit 64 bits, with what
is carried or without it, give the longest span. -/
def timesInWords (d : Duration) (n : Nat) : Option Duration := do
  let total ← inWord 64 (d.nanos * n)
  match (inWord 64 (d.secs.toNat * n)).bind fun s => inWord 64 (s + total / 1_000_000_000) with
  | some secs => of? secs (total % 1_000_000_000)
  | none => some longest

theorem getD_inWord (n : Nat) :
    (inWord 64 n).getD (UInt64.size - 1) = min n (UInt64.size - 1) := by
  have size : UInt64.size = 2 ^ 64 := rfl
  unfold inWord
  split
  · rw [Option.getD_some]
    omega
  · rw [Option.getD_none]
    omega

theorem toMillisInWords_eq (d : Duration) : d.toMillisInWords = some d.toMillis.toNat := by
  have secs : d.secs.toNat < 2 ^ 64 := d.secs.toNat_lt
  have nanos := d.nanos_lt
  have whole : d.secs.toNat * 1000 < 2 ^ 128 := by omega
  have part : d.nanos / 1_000_000 < 2 ^ 127 := by omega
  have millis : d.secs.toNat * 1000 + d.nanos / 1_000_000 < 2 ^ 128 :=
    Nat.add_lt_add (show _ < 2 ^ 127 by omega) part
  have capped : min (d.secs.toNat * 1000 + d.nanos / 1_000_000) (UInt64.size - 1) < UInt64.size :=
    Nat.lt_of_le_of_lt (Nat.min_le_right _ _) (by decide)
  simp only [toMillisInWords, inWord_of_lt whole, Option.bind_eq_bind, Option.bind_some,
    inWord_of_lt millis, getD_inWord, toMillis, UInt64.toNat_ofNat_of_lt' capped, Option.pure_def]

theorem ofMillisInWords_eq (ms : UInt64) : ofMillisInWords ms.toNat = some (ofMillis ms) := by
  have fits : ms.toNat % 1000 * 1_000_000 < 2 ^ 32 := by omega
  simp only [ofMillisInWords, inWord_of_lt fits]
  exact of?_eq_some (secs_ofMillis ms) rfl

theorem timesInWords_eq (d : Duration) {n : Nat} (h : n < 2 ^ 32) :
    d.timesInWords n = some (d.times n) := by
  have total : d.nanos * n < 2 ^ 64 :=
    calc d.nanos * n < 1_000_000_000 * 2 ^ 32 := Nat.mul_lt_mul'' d.nanos_lt h
      _ < 2 ^ 64 := by decide
  have carried : (inWord 64 (d.secs.toNat * n)).bind
      (fun s => inWord 64 (s + d.nanos * n / 1_000_000_000)) =
      inWord 64 (d.secs.toNat * n + d.nanos * n / 1_000_000_000) := by
    unfold inWord
    grind
  simp only [timesInWords, inWord_of_lt total, Option.bind_eq_bind, Option.bind_some, carried]
  by_cases fits : d.secs.toNat * n + d.nanos * n / 1_000_000_000 < 2 ^ 64
  · rw [inWord_of_lt fits, times, if_pos (show _ < UInt64.size from fits)]
    exact of?_eq_some (UInt64.toNat_ofNat_of_lt' fits) rfl
  · rw [inWord, if_neg fits, times, if_neg (show ¬ _ < UInt64.size from fits)]

end Duration

namespace Options

open Duration

/-- The wait before a try when pools are told to wait so long. -/
def wait (o : Options) (d : Duration) (attempt : UInt32) : Duration :=
  (o.withReconnectDelay d).reconnectPolicy.delayBefore attempt.toNat

theorem wait_eq (o : Options) (d : Duration) (t : UInt32) :
    o.wait d t = (ofMillis d.toMillis).times (max t.toNat 1) := rfl

/-- The same, step by step in words. -/
def waitInWords (d : Duration) (attempt : UInt32) : Option Duration := do
  let ms ← d.toMillisInWords
  let base ← ofMillisInWords ms
  base.timesInWords (max attempt.toNat 1)

theorem waitInWords_eq (o : Options) (d : Duration) (t : UInt32) :
    waitInWords d t = some (o.wait d t) := by
  have attempts : max t.toNat 1 < 2 ^ 32 := by
    have := t.toNat_lt
    omega
  rw [wait_eq, waitInWords]
  simp only [Option.bind_eq_bind, Option.bind_eq_some_iff]
  exact ⟨_, toMillisInWords_eq d, _, ofMillisInWords_eq _, timesInWords_eq _ attempts⟩

theorem toNanos_base (o : Options) (d : Duration) :
    (o.withReconnectDelay d).reconnectPolicy.baseDelay.toNanos =
      min (d.toNanos / 1_000_000) (UInt64.size - 1) * 1_000_000 := by
  rw [← toNat_toMillis]
  exact toNanos_ofMillis d.toMillis

/-- A wait is the base once for each try so far, at least once, unless the longest span is shorter; the
base is what the pool was told in whole milliseconds, as many as a word holds. No step towards it
leaves the word it is done in. Who is told a longer span, or tries later, waits no less. -/
theorem waits_exact (o : Options) (d : Duration) (t : UInt32) :
    let base := (o.withReconnectDelay d).reconnectPolicy.baseDelay
    base.toNanos = min (d.toNanos / 1_000_000) (UInt64.size - 1) * 1_000_000 ∧
    (o.wait d t).toNanos = min longest.toNanos (max t.toNat 1 * base.toNanos) ∧
    waitInWords d t = some (o.wait d t) ∧
    (∀ d', d.toNanos ≤ d'.toNanos → (o.wait d t).toNanos ≤ (o.wait d' t).toNanos) ∧
    ∀ t', t ≤ t' → (o.wait d t).toNanos ≤ (o.wait d t').toNanos := by
  refine ⟨toNanos_base o d, toNanos_times _ _, waitInWords_eq o d t, fun d' longer => ?_,
    fun t' later => ?_⟩
  · refine times_le ?_ (Nat.le_refl _)
    rw [toNanos_base, toNanos_base]
    omega
  · have := UInt32.le_iff_toNat_le.1 later
    exact times_le (Nat.le_refl _) (by omega)

/-- The last try, with the longest base that it can still wait out and with the next second. -/
theorem waits_exact_longest :
    let o : Options := {}
    let d : Duration := ⟨4294967296, 1_999_999, by decide⟩
    let d' : Duration := ⟨4294967297, 1_999_999, by decide⟩
    (d.toNanos ≤ d'.toNanos ∧ (4294967294 : UInt32) ≤ 4294967295) ∧
      (o.wait d 4294967294).toNanos ≤ (o.wait d 4294967295).toNanos ∧
      (o.wait d 4294967295).toNanos ≤ (o.wait d' 4294967295).toNanos ∧
      (o.wait d 4294967295).toNanos = 4294967295 * 4294967296_001_000_000 ∧
      (o.wait d' 4294967295).toNanos = longest.toNanos := by
  intro o d d'
  obtain ⟨-, -, -, -, later⟩ := waits_exact o d 4294967294
  obtain ⟨base, exactly, -, longer, -⟩ := waits_exact o d 4294967295
  obtain ⟨base', cut, -⟩ := waits_exact o d' 4294967295
  refine ⟨⟨by decide, by decide⟩, later _ (by decide), longer d' (by decide), ?_, ?_⟩
  · rw [exactly, base]
    decide
  · rw [cut, base']
    decide

end Options
end QueryPool
