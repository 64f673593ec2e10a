import Mathlib.Algebra.Order.Floor.Ring
import Mathlib.Algebra.Order.Floor.Semiring
import Mathlib.Data.Rat.Floor
import Reckoner.Scalar

/-!
# Exact scalars

Every ordered field with a floor reads the program without rounding: all its numbers are finite and
there is one zero. What a field does not bring with it, powers and logarithms, is a parameter.
-/

namespace Reckoner

/-- Powers and logarithms, of which no laws are assumed. -/
class Elementary (K : Type) where
  pow (a b : K) : K
  ln (a : K) : K

/-- Powers of rationals with the exponent rounded down, which is exact where it is whole. -/
instance Elementary.rational : Elementary ℚ where
  pow a b := a ^ ⌊b⌋
  ln _ := 0

/-- Powers with a whole exponent are products, or their inverses. -/
class Elementary.WholePowers (K : Type) [Elementary K] [Field K] : Prop where
  pow_intCast {b : K} (hb : b ≠ 0) (k : ℤ) : pow b (k : K) = b ^ k

instance Elementary.WholePowers.rational : WholePowers ℚ where
  pow_intCast {b} _ k := congrArg (b ^ ·) (Int.floor_intCast k)

namespace Scalar

variable {K : Type} [Elementary K] [Field K] [LinearOrder K] [FloorRing K]

instance ofField : Scalar K where
  toZero := inferInstance
  toOne := inferInstance
  toAdd := inferInstance
  toSub := inferInstance
  toMul := inferInstance
  toDiv := inferInstance
  toNeg := inferInstance
  toNatCast := inferInstance
  toOfScientific := inferInstance
  toLT := inferInstance
  toLE := inferInstance
  beq a b := decide (a = b)
  decideLt := inferInstance
  decideLe := inferInstance
  pow := Elementary.pow
  ln := Elementary.ln
  abs a := |a|
  floor a := (⌊a⌋ : K)
  ceil a := (⌈a⌉ : K)
  round a := if a < 0 then (⌈a - 1 / 2⌉ : K) else (⌊a + 1 / 2⌋ : K)
  isFinite _ := true
  isNegative a := decide (a < 0)
  toNat a := min ⌊a⌋₊ (2 ^ 64 - 1)

@[simp] theorem isFinite_ofField (a : K) : isFinite a = true := rfl

/-- Of exact numbers the lesser is the minimum. -/
@[simp] theorem lesser_ofField (a b : K) : lesser a b = min a b := by
  have hsame : (a != a) = false := by
    show (!decide (a = a)) = false
    simp
  simp only [lesser, hsame, Bool.false_eq_true, if_false]
  split
  · rename_i h
    exact (min_eq_right (le_of_lt h)).symm
  · rename_i h
    exact (min_eq_left (not_lt.mp h)).symm

/-- Of exact numbers the greater is the maximum. -/
@[simp] theorem greater_ofField (a b : K) : greater a b = max a b := by
  have hsame : (a != a) = false := by
    show (!decide (a = a)) = false
    simp
  simp only [greater, hsame, Bool.false_eq_true, if_false]
  split
  · rename_i h
    exact (max_eq_right (le_of_lt h)).symm
  · rename_i h
    exact (max_eq_left (not_lt.mp h)).symm

theorem sameSign_ofField {a b : K} : sameSign a b = true ↔ (a < 0 ↔ b < 0) := by
  show (decide (a < 0) == decide (b < 0)) = true ↔ _
  rw [beq_iff_eq, decide_eq_decide]

variable [IsStrictOrderedRing K]

/-- The count clamped from a number is not above any bound of the number. -/
theorem toNat_le_of_le {a : K} {n : Nat} (h : a ≤ (n : K)) : toNat a ≤ n :=
  (min_le_left _ _).trans (Nat.floor_le_of_le h)

end Scalar

end Reckoner
