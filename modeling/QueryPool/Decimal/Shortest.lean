namespace QueryPool.Decimal

/-- A positive number `mantissa * 2 ^ exponent`. At a power of two the number below is only half
as far away as the number above. -/
structure Binary where
  mantissa : Nat
  exponent : Int
  nearBelow : Bool
  deriving DecidableEq

def Binary.ofBits (bits : Nat) : Binary :=
  let biased : Nat := bits >>> 52 % 2048
  let fraction := bits % 0x10000000000000
  if biased = 0 then ⟨fraction, -1074, false⟩
  else ⟨fraction + 0x10000000000000, (biased : Int) - 1075, fraction = 0 && 1 < biased⟩

/-- Which way a number halfway between two candidates goes. -/
inductive Tie where
  | up
  | even
  deriving DecidableEq

/-- The number, its midpoints and the grid of multiples of `10 ^ place`, brought to one scale: the
grid points are the multiples of `step`. -/
structure Window where
  low : Nat
  value : Nat
  high : Nat
  step : Nat
  closed : Bool

def Binary.window (b : Binary) (place : Int) : Window :=
  let scale := Nat.pow 10 (-place).toNat <<< (b.exponent - 2).toNat
  { low := (4 * b.mantissa - if b.nearBelow then 1 else 2) * scale
    value := 4 * b.mantissa * scale
    high := (4 * b.mantissa + 2) * scale
    step := Nat.pow 10 place.toNat <<< (2 - b.exponent).toNat
    closed := b.mantissa % 2 = 0 }

def Window.holds (w : Window) (n : Nat) : Bool :=
  if w.closed then w.low ≤ n * w.step && n * w.step ≤ w.high
  else w.low < n * w.step && n * w.step < w.high

/-- The grid point inside the window that is nearest to the number, if there is one. -/
def Window.nearest? (tie : Tie) (w : Window) : Option Nat :=
  let n := w.value / w.step
  match w.holds n, w.holds (n + 1) with
  | false, false => none
  | true, false => some n
  | false, true => some (n + 1)
  | true, true =>
    let twice := 2 * (w.value % w.step)
    if twice < w.step then some n
    else if w.step < twice then some (n + 1)
    else match tie with
      | .up => some (n + 1)
      | .even => some (if n % 2 = 0 then n else n + 1)

/-- Digits and the place of the last of them: `digits * 10 ^ place`. -/
structure Expansion where
  digits : Nat
  place : Int
  deriving DecidableEq

/-- The expansion that leaves nothing out. -/
def Binary.exact (b : Binary) : Expansion :=
  if 0 ≤ b.exponent then ⟨b.mantissa <<< b.exponent.toNat, 0⟩
  else ⟨b.mantissa * Nat.pow 5 (-b.exponent).toNat, b.exponent⟩

def Binary.shortestFrom (b : Binary) (tie : Tie) : Nat → Int → Expansion
  | 0, _ => b.exact
  | grids + 1, place =>
    match (b.window place).nearest? tie with
    | some n => ⟨n, place⟩
    | none => b.shortestFrom tie grids (place - 1)

/-- From a grid coarser than the number itself, seventeen digits are at most twenty grids away. -/
def Binary.shortest (b : Binary) (tie : Tie) : Expansion :=
  b.shortestFrom tie 24 ((b.exponent + (b.mantissa.log2 + 1)) * 30103 / 100000 + 1)

end QueryPool.Decimal
