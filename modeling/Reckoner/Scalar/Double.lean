import Reckoner.Scalar

/-!
# Doubles as scalars

The instance every program run uses: IEEE 754 binary64, where a quotient by zero is infinite or
undefined and no operation fails.
-/

namespace Reckoner

instance : Scalar Float where
  zero := 0.0
  one := 1.0
  natCast := Float.ofNat
  decideLt a b := Float.decLt a b
  decideLe a b := Float.decLe a b
  pow := Float.pow
  ln := Float.log
  abs := Float.abs
  floor := Float.floor
  ceil := Float.ceil
  round := Float.round
  isFinite := Float.isFinite
  isNegative a := a.toBits >>> 63 == 1
  toNat a := a.toUInt64.toNat

end Reckoner
