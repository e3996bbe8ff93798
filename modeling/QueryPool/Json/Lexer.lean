import QueryPool.Json.Basic
import QueryPool.Text.Digits

namespace QueryPool.Json

/-- Why a text was refused: it is no JSON, it ends too early, or it is JSON of another shape than
was asked for. -/
inductive Fault where
  | malformed
  | truncated
  | mismatch
  deriving DecidableEq, Repr

abbrev Reader (α : Type) := List Char → Except Fault (α × List Char)

def isSpace (c : Char) : Bool := c = ' ' || c = '\t' || c = '\n' || c = '\r'

def skipSpace (s : List Char) : List Char := s.dropWhile isSpace

/-- The rest of a fixed word whose first character told which word it must be. -/
def word : List Char → Reader Unit
  | [], s => .ok ((), s)
  | _ :: _, [] => .error .truncated
  | c :: cs, d :: s => if c = d then word cs s else .error .malformed

def hexValue (c : Char) : Option Nat :=
  if c.isDigit then some (c.toNat - '0'.toNat)
  else if 'a' ≤ c ∧ c ≤ 'f' then some (c.toNat - 'a'.toNat + 10)
  else if 'A' ≤ c ∧ c ≤ 'F' then some (c.toNat - 'A'.toNat + 10)
  else none

/-- Four hexadecimal digits. The text ends too early when fewer than four bytes are left of it. -/
def hexWord : Reader Nat
  | a :: b :: c :: d :: s =>
    match hexValue a, hexValue b, hexValue c, hexValue d with
    | some a, some b, some c, some d => .ok (((a * 16 + b) * 16 + c) * 16 + d, s)
    | _, _, _, _ => .error .malformed
  | s => if (String.ofList s).utf8ByteSize < 4 then .error .truncated else .error .malformed

theorem hexWord_length {s r : List Char} {n : Nat} (h : hexWord s = .ok (n, r)) :
    r.length < s.length := by
  unfold hexWord at h
  split at h
  · split at h
    · injection h with h
      injection h with _ h
      subst h
      simp only [List.length_cons]
      omega
    · cases h
  · split at h <;> cases h

def isLeading (n : Nat) : Bool := 0xD800 ≤ n && n ≤ 0xDBFF

def isTrailing (n : Nat) : Bool := 0xDC00 ≤ n && n ≤ 0xDFFF

def joinPair (n m : Nat) : Char := Char.ofNat (0x10000 + (n - 0xD800) * 0x400 + (m - 0xDC00))

/-- The character that two escapes spell together; half a pair alone is refused. -/
def pairEscape (n : Nat) : Reader Char
  | [] | ['\\'] => .error .truncated
  | '\\' :: 'u' :: s =>
    match hexWord s with
    | .ok (m, s) => if isTrailing m then .ok (joinPair n m, s) else .error .malformed
    | .error e => .error e
  | _ => .error .malformed

/-- What follows a backslash. -/
def escape : Reader Char
  | [] => .error .truncated
  | '"' :: s => .ok ('"', s)
  | '\\' :: s => .ok ('\\', s)
  | '/' :: s => .ok ('/', s)
  | 'b' :: s => .ok ('\x08', s)
  | 'f' :: s => .ok ('\x0c', s)
  | 'n' :: s => .ok ('\n', s)
  | 'r' :: s => .ok ('\r', s)
  | 't' :: s => .ok ('\t', s)
  | 'u' :: s =>
    match hexWord s with
    | .ok (n, s) =>
      if isTrailing n then .error .malformed
      else if isLeading n then pairEscape n s
      else .ok (Char.ofNat n, s)
    | .error e => .error e
  | _ => .error .malformed

theorem pairEscape_length {n : Nat} {s r : List Char} {c : Char}
    (h : pairEscape n s = .ok (c, r)) : r.length < s.length := by
  unfold pairEscape at h
  split at h
  · cases h
  · cases h
  · split at h
    · next hw =>
      split at h
      · injection h with h
        injection h with _ h
        subst h
        have := hexWord_length hw
        simp only [List.length_cons]
        omega
      · cases h
    · cases h
  · cases h

theorem escape_length {s r : List Char} {c : Char} (h : escape s = .ok (c, r)) :
    r.length < s.length := by
  unfold escape at h
  split at h
  case h_10 =>
    split at h
    · next hw =>
      have := hexWord_length hw
      split at h
      · cases h
      · split at h
        · have := pairEscape_length h
          simp only [List.length_cons]
          omega
        · injection h with h
          injection h with _ h
          subst h
          simp only [List.length_cons]
          omega
    · cases h
  all_goals first
    | (injection h with h; injection h with _ h; subst h; simp)
    | cases h

/-- The characters of a string up to its closing quote. -/
def stringTail (s : List Char) : Except Fault (List Char × List Char) :=
  match s with
  | [] => .error .truncated
  | '"' :: s => .ok ([], s)
  | '\\' :: s =>
    match _h : escape s with
    | .error e => .error e
    | .ok (c, s') => (stringTail s').map fun (cs, r) => (c :: cs, r)
  | c :: s =>
    if c.toNat < 0x20 then .error .malformed
    else (stringTail s).map fun (cs, r) => (c :: cs, r)
termination_by s.length
decreasing_by
  · have := escape_length _h
    simp only [List.length_cons]
    omega
  · simp

/-- A string whose opening quote has been read. -/
def readString (s : List Char) : Except Fault (String × List Char) :=
  (stringTail s).map fun (cs, r) => (String.ofList cs, r)

/-- A string that nobody looks at: halves of pairs are not told apart. -/
def skipString (s : List Char) : Except Fault (Unit × List Char) :=
  match s with
  | [] => .error .truncated
  | '"' :: s => .ok ((), s)
  | ['\\'] => .error .truncated
  | '\\' :: 'u' :: s =>
    match _h : hexWord s with
    | .error e => .error e
    | .ok (_, s') => skipString s'
  | '\\' :: c :: s => if c ∈ ['"', '\\', '/', 'b', 'f', 'n', 'r', 't'] then skipString s
    else .error .malformed
  | c :: s => if c.toNat < 0x20 then .error .malformed else skipString s
termination_by s.length
decreasing_by
  · have := hexWord_length _h
    simp only [List.length_cons]
    omega
  · simp only [List.length_cons]
    omega
  · simp

/-- A number as it is spelled, its sign apart. The exponent is signed already. -/
structure Numeral where
  whole : List Char
  fraction : List Char
  exponent : Option Int

def digitRun (s : List Char) : List Char × List Char := s.span Char.isDigit

/-- One digit or more; `atEnd` is the fault of a text that ends before the first. -/
def someDigits (atEnd : Fault) (s : List Char) : Except Fault (List Char × List Char) :=
  match digitRun s with
  | ([], []) => .error atEnd
  | ([], _) => .error .malformed
  | (ds, r) => .ok (ds, r)

/-- Digits before the point; a zero in front stands alone. -/
def wholePart (atEnd : Fault) (s : List Char) : Except Fault (List Char × List Char) :=
  match someDigits atEnd s with
  | .ok (d :: e :: ds, r) => if d = '0' then .error .malformed else .ok (d :: e :: ds, r)
  | other => other

def fractionPart (atEnd : Fault) : List Char → Except Fault (List Char × List Char)
  | '.' :: s => someDigits atEnd s
  | s => .ok ([], s)

def exponentDigits (atEnd : Fault) (sign : Int) (s : List Char) :
    Except Fault (Option Int × List Char) :=
  (someDigits atEnd s).map fun (ds, r) => (some (sign * Text.digitsValue ds), r)

def exponentPart (atEnd : Fault) : List Char → Except Fault (Option Int × List Char)
  | c :: s =>
    if c = 'e' ∨ c = 'E' then
      match s with
      | '+' :: s => exponentDigits atEnd 1 s
      | '-' :: s => exponentDigits atEnd (-1) s
      | s => exponentDigits atEnd 1 s
    else .ok (none, c :: s)
  | [] => .ok (none, [])

def numeral (atEnd : Fault) (s : List Char) : Except Fault (Numeral × List Char) := do
  let (whole, s) ← wholePart atEnd s
  let (fraction, s) ← fractionPart atEnd s
  let (exponent, s) ← exponentPart atEnd s
  return (⟨whole, fraction, exponent⟩, s)

/-- Appends digits to a word of 64 bits as long as they fit; gives those that no longer do. -/
def absorb (n : Nat) : List Char → Nat × List Char
  | [] => (n, [])
  | d :: ds =>
    let next := n * 10 + Text.digitValue d
    if next < UInt64.size then absorb next ds else (n, d :: ds)

def tenTo (n : Nat) : Float := Float.ofScientific 1 false n

/-- Division by a power of ten, in steps that a binary64 divisor can hold. -/
def shrink (x : Float) (places : Nat) : Float :=
  if places ≤ 308 then x / tenTo places
  else if x == 0 then x
  else shrink (x / tenTo 308) (places - 308)
termination_by places

/-- `significand * 10 ^ exponent` by one product or quotient of binary64 numbers. A result beyond
the largest of them is refused. -/
def scale (significand : Nat) (exponent : Int) : Except Fault Float :=
  let x := (UInt64.ofNat significand).toFloat
  if exponent < 0 then .ok (shrink x exponent.natAbs)
  else if 308 < exponent then if x == 0 then .ok x else .error .malformed
  else
    let y := x * tenTo exponent.toNat
    if y.isInf then .error .malformed else .ok y

/-- A number without fraction and exponent stays an integer while a 64-bit word holds it; a negative
zero does not. -/
def Numeral.value (negative : Bool) (n : Numeral) : Except Fault Number :=
  let (significand, left) := absorb 0 n.whole
  let signed (x : Float) : Number := .real (if negative then -x else x)
  if n.fraction = [] ∧ n.exponent = none ∧ left = [] then
    if !negative then .ok (.integer significand)
    else if 0 < significand ∧ significand ≤ 0x8000000000000000 then .ok (.integer (-significand))
    else .ok (signed (UInt64.ofNat significand).toFloat)
  else
    let (significand, unread) := absorb significand n.fraction
    let places : Int := left.length - (n.fraction.length - unread.length)
    (scale significand (places + n.exponent.getD 0)).map signed

/-- A number whose sign has been read. -/
def readNumber (negative : Bool) (s : List Char) : Except Fault (Number × List Char) := do
  let (n, s) ← numeral .truncated s
  return (← n.value negative, s)

end QueryPool.Json
