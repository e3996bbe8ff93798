import QueryPool.Text.Digits

namespace QueryPool

/-- A span of time: whole seconds, and nanoseconds below one second. -/
structure Duration where
  secs : UInt64
  nanos : Nat
  nanos_lt : nanos < 1_000_000_000 := by decide
  deriving DecidableEq

namespace Duration

def zero : Duration := { secs := 0, nanos := 0 }

def longest : Duration := { secs := .ofNat (UInt64.size - 1), nanos := 999_999_999 }

def of? (secs nanos : Nat) : Option Duration :=
  if h : secs < UInt64.size ∧ nanos < 1_000_000_000 then some ⟨.ofNat secs, nanos, h.2⟩ else none

/-- The whole span in nanoseconds. -/
def toNanos (d : Duration) : Nat := d.secs.toNat * 1_000_000_000 + d.nanos

def ofMillis (ms : UInt64) : Duration where
  secs := ms / 1000
  nanos := ms.toNat % 1000 * 1_000_000
  nanos_lt := by omega

/-- Whole milliseconds; a span of more of them than a word holds counts as the most it holds. -/
def toMillis (d : Duration) : UInt64 :=
  .ofNat (min (d.secs.toNat * 1000 + d.nanos / 1_000_000) (UInt64.size - 1))

/-- Repetition carries whole seconds out of the nanoseconds and stops at the longest span. -/
def times (d : Duration) (n : Nat) : Duration :=
  let total := d.nanos * n
  let secs := d.secs.toNat * n + total / 1_000_000_000
  if secs < UInt64.size then ⟨.ofNat secs, total % 1_000_000_000, Nat.mod_lt _ (by decide)⟩
  else longest

theorem toNanos_ofMillis (ms : UInt64) : (ofMillis ms).toNanos = ms.toNat * 1_000_000 := by
  simp only [toNanos, ofMillis, UInt64.toNat_div]
  show ms.toNat / 1000 * 1_000_000_000 + ms.toNat % 1000 * 1_000_000 = _
  omega

theorem toNanos_le_longest (d : Duration) : d.toNanos ≤ longest.toNanos := by
  have := d.secs.toNat_lt
  have := d.nanos_lt
  show d.secs.toNat * 1_000_000_000 + d.nanos ≤ 18446744073709551615999999999
  omega

/-- The largest unit that is not zero, and as many places of it as are needed. -/
def text (d : Duration) : String :=
  let write (whole part width : Nat) (unit : String) : String :=
    let places := ((Text.padded width part).reverse.dropWhile (· = '0')).reverse
    String.ofList (Text.digits whole ++ if places = [] then [] else '.' :: places) ++ unit
  if 0 < d.secs then write d.secs.toNat d.nanos 9 "s"
  else if 1_000_000 ≤ d.nanos then write (d.nanos / 1_000_000) (d.nanos % 1_000_000) 6 "ms"
  else if 1_000 ≤ d.nanos then write (d.nanos / 1_000) (d.nanos % 1_000) 3 "µs"
  else write d.nanos 0 0 "ns"

end Duration
end QueryPool
