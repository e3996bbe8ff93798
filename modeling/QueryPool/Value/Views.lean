import QueryPool.Json.Parser
import QueryPool.Timestamp.Text
import QueryPool.Value.Basic

namespace QueryPool.Value

def isNull : Value → Bool
  | null => true
  | _ => false

def toInt? : Value → Option Int64
  | int n => some n
  | uint n => if n ≤ Int64.maxValue.toUInt64 then some n.toInt64 else none
  | bool b => some (if b then 1 else 0)
  | _ => none

def toUInt? : Value → Option UInt64
  | uint n => some n
  | int n => if 0 ≤ n then some n.toUInt64 else none
  | _ => none

def toText? : Value → Option String
  | text s => some s
  | _ => none

/-- Only one and zero are numbers for true and false. -/
def toBool? : Value → Option Bool
  | bool b => some b
  | int n => if n = 1 then some true else if n = 0 then some false else none
  | uint n => if n = 1 then some true else if n = 0 then some false else none
  | _ => none

def toTimestamp? : Value → Option Timestamp
  | timestamp t => some t
  | text s => Timestamp.ofText? s
  | _ => none

/-- The nearest binary64 number, which rounds magnitudes of more than 53 bits. -/
def floatOfInt (n : Int) : Float :=
  let x := (UInt64.ofNat n.natAbs).toFloat
  if n < 0 then -x else x

def toFloat? : Value → Option Float
  | float x => some x
  | int n => some (floatOfInt n.toInt)
  | _ => none

def toJson? : Value → Option Json.Document
  | json d => some d
  | text s => Json.Document.ofText? s
  | _ => none

def toBlob? : Value → Option (List UInt8)
  | blob bytes => some bytes
  | _ => none

end QueryPool.Value
