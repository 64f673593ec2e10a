import Mathlib.Analysis.SpecialFunctions.Pow.Real
import Reckoner.Proofs.Exact

/-!
# Real scalars

The exact reading with the powers and logarithms of real numbers.
-/

namespace Reckoner

noncomputable instance Elementary.real : Elementary ℝ where
  pow a b := a ^ b
  ln := Real.log

namespace Elementary

instance WholePowers.real : WholePowers ℝ where
  pow_intCast {b} _ k := Real.rpow_intCast b k

theorem pow_real (a b : ℝ) : pow a b = a ^ b := rfl

theorem pow_real_pos {a : ℝ} (ha : 0 < a) (b : ℝ) : 0 < pow a b := Real.rpow_pos_of_pos ha b

theorem pow_real_eq_one_iff {a : ℝ} (ha : 0 < a) (b : ℝ) : pow a b = 1 ↔ a = 1 ∨ b = 0 := by
  rw [pow_real, Real.rpow_def_of_pos ha, Real.exp_eq_one_iff, mul_eq_zero, Real.log_eq_zero]
  have hne : a ≠ 0 := ha.ne'
  have hneg : a ≠ -1 := (neg_one_lt_zero.trans ha).ne'
  simp [hne, hneg]

end Elementary

end Reckoner
