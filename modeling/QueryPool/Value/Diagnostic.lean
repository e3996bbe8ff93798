import QueryPool.Json.Printer
import QueryPool.Timestamp.Text
import QueryPool.Value.Basic

namespace QueryPool

/-- Items between brackets, as diagnostics list them. -/
def bracketed (items : List String) : String := "[" ++ ", ".intercalate items ++ "]"

/-- The kind of a value and, but for null, its payload. -/
def Value.diagnostic : Value → String
  | int n => "Int(" ++ toString n.toInt ++ ")"
  | uint n => "UInt(" ++ toString n.toNat ++ ")"
  | float x => "Float(" ++ Decimal.diagnostic.write x ++ ")"
  | text s => "Text(" ++ Text.quoted s ++ ")"
  | bool b => "Bool(" ++ toString b ++ ")"
  | timestamp t => "Timestamp(" ++ t.diagnostic ++ ")"
  | null => "Null"
  | json d => "JSON(" ++ d.tree.diagnostic ++ ")"
  | blob bytes => "Blob(" ++ bracketed (bytes.map fun b => toString b.toNat) ++ ")"

end QueryPool
