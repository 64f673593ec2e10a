/-!
# The exact value of a double

A finite double is a whole number times a power of two. Everything that writes a double as decimal
text starts from this exact value and works in natural numbers.
-/

namespace Reckoner.Decimal

/-- The magnitude `significand * 2 ^ exponent` of a finite double. -/
structure Dyadic where
  significand : Nat
  exponent : Int
  /-- The double below is half as far away as the double above. -/
  narrowBelow : Bool

/-- Reads the fields of binary64. The sign is dropped; the bits are those of a finite double. -/
def Dyadic.ofBits (bits : UInt64) : Dyadic :=
  let biased := ((bits >>> 52) &&& 0x7FF).toNat
  let fraction := (bits &&& 0xFFFFFFFFFFFFF).toNat
  if biased = 0 then ⟨fraction, -1074, false⟩
  else ⟨Nat.pow 2 52 + fraction, (biased : Int) - 1075, fraction = 0 && biased > 1⟩

/-- The magnitude of a finite double. -/
def Dyadic.ofFloat (x : Float) : Dyadic := .ofBits x.toBits

/-- The magnitude as a quotient of naturals. -/
def Dyadic.numerator (x : Dyadic) : Nat := x.significand * Nat.pow 2 x.exponent.toNat

def Dyadic.denominator (x : Dyadic) : Nat := Nat.pow 2 (-x.exponent).toNat

/-- Bit 63 of a double: set for negative numbers and for negative zero. -/
def signBit (x : Float) : Bool := x.toBits >>> 63 == 1

end Reckoner.Decimal
