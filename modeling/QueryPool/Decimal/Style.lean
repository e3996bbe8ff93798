import QueryPool.Decimal.Shortest
import QueryPool.Text.Digits

namespace QueryPool.Decimal

/-- How a number is written: the decimal exponents that need no exponent part, whether a positive
exponent carries a sign, and the way of a tie between two shortest forms. -/
structure Style where
  least : Int
  most : Int
  plusSign : Bool
  tie : Tie

def Expansion.write (style : Style) (d : Expansion) : List Char :=
  let ds := Text.digits d.digits
  let exponent := d.place + (ds.length - 1)
  if style.least ≤ exponent ∧ exponent ≤ style.most then
    if 0 ≤ d.place then ds ++ List.replicate d.place.toNat '0' ++ ['.', '0']
    else if 0 ≤ exponent then
      ds.take (exponent.toNat + 1) ++ '.' :: ds.drop (exponent.toNat + 1)
    else ['0', '.'] ++ List.replicate (-exponent - 1).toNat '0' ++ ds
  else
    let sign := if exponent < 0 then ['-'] else if style.plusSign then ['+'] else []
    let fraction := if ds.length = 1 then [] else '.' :: ds.drop 1
    ds.take 1 ++ fraction ++ 'e' :: sign ++ Text.digits exponent.natAbs

/-- A zero keeps its sign. -/
def Style.write (style : Style) (x : Float) : String :=
  let bits := x.toBits.toNat
  let magnitude := bits % 0x8000000000000000
  let sign := if magnitude = bits then [] else ['-']
  if x.isNaN then "NaN"
  else if x.isInf then String.ofList (sign ++ "inf".toList)
  else if magnitude = 0 then String.ofList (sign ++ "0.0".toList)
  else String.ofList (sign ++ ((Binary.ofBits magnitude).shortest style.tie).write style)

/-- Diagnostics write exponents from `-4` to `15` positionally. -/
def diagnostic : Style := ⟨-4, 15, false, .up⟩

/-- JSON text writes exponents from `-5` to `15` positionally and marks positive ones. -/
def json : Style := ⟨-5, 15, true, .even⟩

end QueryPool.Decimal
