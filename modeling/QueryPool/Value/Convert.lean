import QueryPool.Value.Basic

namespace QueryPool

/-- A power of two as a binary64 number, for exponents of normal numbers. -/
def powerOfTwo (e : Int) : Float := Float.ofBits (.ofNat ((e + 1023).toNat <<< 52))

/-- The binary64 number with the value of binary32 bits; every one of them has one. -/
def widen (bits : UInt32) : Float :=
  let n := bits.toNat
  let fraction : Nat := n % 0x800000
  let biased : Nat := n >>> 23 % 256
  let exact (m : Nat) (e : Int) : Float := (UInt64.ofNat m).toFloat * powerOfTwo e
  let magnitude :=
    if biased = 255 then if fraction = 0 then 1.0 / 0.0 else 0.0 / 0.0
    else if biased = 0 then exact fraction (-149)
    else exact (fraction + 0x800000) ((biased : Int) - 150)
  if n < 0x80000000 then magnitude else -magnitude

namespace Value

def ofSigned (n : Int) : Value := int (.ofInt n)

def ofUnsigned (n : Nat) : Value := uint (.ofNat n)

def ofSingle (bits : UInt32) : Value := float (widen bits)

end Value
end QueryPool
