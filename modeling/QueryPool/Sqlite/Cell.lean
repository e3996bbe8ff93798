import QueryPool.Error
import QueryPool.Json.Printer
import QueryPool.Text.Escape
import QueryPool.Timestamp.Text
import QueryPool.Value.Basic

namespace QueryPool.Sqlite

inductive Cell where
  | null
  | integer (n : Int64)
  | real (x : Float)
  | text (s : String)
  | blob (bytes : List UInt8)

/-- Integers are signed 64-bit words: a larger one is refused rather than stored as another. -/
def Cell.ofValue : Value → Except NativeError Cell
  | .int n => .ok (.integer n)
  | .uint n =>
    if n ≤ Int64.maxValue.toUInt64 then .ok (.integer n.toInt64)
    else .error ⟨Code.outOfRange, s!"unsigned value {n.toNat} does not fit a SQLite integer"⟩
  | .float x => .ok (.real x)
  | .text s => .ok (.text s)
  | .bool b => .ok (.integer (if b then 1 else 0))
  | .timestamp t => .ok (.text t.text)
  | .null => .ok .null
  | .json d => .ok (.text d.text)
  | .blob bytes => .ok (.blob bytes)

def Cell.toValue : Cell → Value
  | null => .null
  | integer n => .int n
  | real x => .float x
  | text s => .text s
  | blob bytes => .blob bytes

def Cell.isNaN : Cell → Bool
  | real x => x.isNaN
  | _ => false

/-- The cells of all values, or the failure of the first that has none. -/
def Cell.ofValues (vs : List Value) : Except NativeError (List Cell) := vs.mapM ofValue

def escape (s : String) : String := String.ofList (Text.escapeDoubling s.toList)

end QueryPool.Sqlite
