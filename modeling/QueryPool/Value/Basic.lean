import QueryPool.Json.Basic
import QueryPool.Timestamp.Basic

namespace QueryPool

/-- What a placeholder can be bound to and a column can hold. -/
inductive Value where
  | int (n : Int64)
  | uint (n : UInt64)
  | float (x : Float)
  | text (s : String)
  | bool (b : Bool)
  | timestamp (t : Timestamp)
  | null
  | json (d : Json.Document)
  | blob (bytes : List UInt8)

abbrev Row := List Value

namespace Value

/-- Values of different kinds differ; floats and JSON numbers compare as numbers. -/
def same : Value → Value → Bool
  | int m, int n => m = n
  | uint m, uint n => m = n
  | float x, float y => x == y
  | text s, text t => s = t
  | bool a, bool b => a = b
  | timestamp t, timestamp u => t = u
  | null, null => true
  | json d, json e => d.same e
  | blob x, blob y => x = y
  | _, _ => false

/-- A column that may be missing a value. -/
def ofOption : Option Value → Value
  | some v => v
  | none => null

end Value
end QueryPool
