import QueryPool.Text.Blank
import QueryPool.Text.Digits
import QueryPool.Timestamp.Basic

namespace QueryPool.Timestamp

/-- Years outside the four-digit range carry their sign. -/
def yearText (year : Int) : List Char :=
  if 0 ≤ year ∧ year ≤ 9999 then Text.padded 4 year.natAbs
  else (if year < 0 then '-' else '+') :: Text.padded 4 year.natAbs

/-- As many places as are needed, three at a time. -/
def fractionText (nanos : Nat) : List Char :=
  if nanos = 0 then []
  else if nanos % 1_000_000 = 0 then '.' :: Text.padded 3 (nanos / 1_000_000)
  else if nanos % 1_000 = 0 then '.' :: Text.padded 6 (nanos / 1_000)
  else '.' :: Text.padded 9 nanos

/-- A leap second is written as the second after its own, at the end of a minute as second 60. -/
def writeWith (separator : Char) (t : Timestamp) : List Char :=
  yearText t.year ++ '-' :: Text.padded 2 t.month ++ '-' :: Text.padded 2 t.day ++
    separator :: Text.padded 2 t.hour ++ ':' :: Text.padded 2 t.minute ++
    ':' :: Text.padded 2 (t.second + t.nanos / 1_000_000_000) ++
    fractionText (t.nanos % 1_000_000_000)

def text (t : Timestamp) : String := String.ofList (t.writeWith ' ')

def diagnostic (t : Timestamp) : String := String.ofList (t.writeWith 'T')

/-- The digits in front, at most `limit` of them and at least one. -/
def digitField (limit : Nat) (s : List Char) : Option (Nat × List Char) :=
  match (s.take limit).takeWhile Char.isDigit with
  | [] => none
  | ds => some (Text.digitsValue ds, s.drop ds.length)

def numberField (limit : Nat) (s : List Char) : Option (Nat × List Char) :=
  digitField limit (Text.trimLeft s)

/-- Without a sign a year has at most four digits. -/
def yearField (s : List Char) : Option (Int × List Char) :=
  match Text.trimLeft s with
  | '-' :: s => (digitField s.length s).map fun (n, s) => (-n, s)
  | '+' :: s => (digitField s.length s).map fun (n, s) => (n, s)
  | s => (digitField 4 s).map fun (n, s) => (n, s)

def mark (c : Char) : List Char → Option (List Char)
  | d :: s => if c = d then some s else none
  | [] => none

/-- Places after the ninth are read and dropped. -/
def fractionField : List Char → Option (Nat × List Char)
  | '.' :: s =>
    match (s.take 9).takeWhile Char.isDigit with
    | [] => none
    | ds => some (Text.digitsValue (ds.rightpad 9 '0'), (s.drop ds.length).dropWhile Char.isDigit)
  | s => some (0, s)

/-- Second 60 is the leap second of its minute. -/
def secondAndNanos (second fraction : Nat) : Nat × Nat :=
  if second = 60 then (59, 1_000_000_000 + fraction) else (second, fraction)

/-- A format ends with a fraction of the second or without. -/
def noFraction (s : List Char) : Option (Nat × List Char) := some (0, s)

def ofChars? (fraction : List Char → Option (Nat × List Char)) (s : List Char) :
    Option Timestamp := do
  let (year, s) ← yearField s
  let s ← mark '-' s
  let (month, s) ← numberField 2 s
  let s ← mark '-' s
  let (day, s) ← numberField 2 s
  let (hour, s) ← numberField 2 s
  let s ← mark ':' s
  let (minute, s) ← numberField 2 s
  let s ← mark ':' s
  let (second, s) ← numberField 2 s
  let (nanos, s) ← fraction s
  let (second, nanos) := secondAndNanos second nanos
  if s = [] then of? year month day hour minute second nanos else none

/-- The format without a fraction is tried before the one with it. -/
def ofText? (s : String) : Option Timestamp :=
  ofChars? noFraction s.toList <|> ofChars? fractionField s.toList

end QueryPool.Timestamp
