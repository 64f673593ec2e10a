import Mathlib
import Reckoner.Proofs.Exact.Real
import Reckoner.Proofs.Finance.RateSearch

/-!
# The slope that Newton's method follows

At every rate that is not taken for zero, the slope of the residual is its derivative. The annuity factor
has the derivative of a quotient there; the rates near the given one are not taken for zero either, so
that no limit is involved. At a rate of zero the slope of the annuity factor is the derivative of the sum
of powers that the quotient stands for.
-/

namespace Reckoner

open Finset

namespace Annuity

theorem isZeroRate_eq_false {rate : ℝ} (hrate : 1e-12 < |rate|) : isZeroRate rate = false :=
  decide_eq_false hrate.not_gt

theorem eventually_isZeroRate_eq_false {rate : ℝ} (hrate : 1e-12 < |rate|) :
    ∀ᶠ r in nhds rate, isZeroRate r = false := by
  have hnear : ∀ᶠ r in nhds rate, 1e-12 < |r| := continuous_abs.continuousAt.eventually_const_lt hrate
  exact hnear.mono fun r hr => isZeroRate_eq_false hr

theorem compoundFactor_hasDerivAt {rate : ℝ} (hrate : -1 < rate) (n : ℝ) :
    HasDerivAt (fun r => compoundFactor r n) (n * compoundFactor rate (n - 1)) rate := by
  have hbase : 1 + rate ≠ 0 := (neg_lt_iff_pos_add'.mp hrate).ne'
  have hpow := ((hasDerivAt_id' rate).const_add 1).rpow_const (p := n) (.inl hbase)
  rw [one_mul] at hpow
  exact hpow

/-- The derivative of a quotient, where the annuity factor is one. -/
theorem annuityFactor_hasDerivAt {rate : ℝ} (hrate : -1 < rate) (hrate' : 1e-12 < |rate|) (n : ℝ) :
    HasDerivAt (fun r => annuityFactor r n) (annuitySlope rate n) rate := by
  have hne : rate ≠ 0 := by
    rintro rfl
    rw [abs_zero] at hrate'
    norm_num at hrate'
  have hquotient : (fun r => annuityFactor r n) =ᶠ[nhds rate] fun r => (compoundFactor r n - 1) / r := by
    filter_upwards [eventually_isZeroRate_eq_false hrate'] with r hr
    rw [annuityFactor, hr, if_neg Bool.false_ne_true]
  have hslope := ((compoundFactor_hasDerivAt hrate n).sub_const 1).div (hasDerivAt_id' rate) hne
  refine (hslope.congr_of_eventuallyEq hquotient).congr_deriv ?_
  rw [annuitySlope, isZeroRate_eq_false hrate', if_neg Bool.false_ne_true, mul_one, sq]

/-- The residual has a derivative wherever the growth and the payments have one, by the rule for
products. -/
theorem residual_hasDerivAt_of_factor {rate : ℝ} (hrate : -1 < rate) (hrate' : 1e-12 < |rate|)
    (pv fv pmt n : ℝ) {timing : Timing} {dt : ℝ}
    (hfactor : HasDerivAt (fun r => timing.factor r) dt rate) :
    HasDerivAt (fun r => residual pv fv pmt r n timing)
      (pv * n * compoundFactor rate (n - 1) +
        pmt * (annuitySlope rate n * timing.factor rate + annuityFactor rate n * dt)) rate := by
  have hgrowth := (compoundFactor_hasDerivAt hrate n).const_mul pv
  have hpayments := (annuityFactor_hasDerivAt hrate hrate' n).const_mul pmt
  refine ((hgrowth.add (hpayments.mul hfactor)).sub_const fv).congr_deriv ?_
  ring

theorem residual_hasDerivAt {rate : ℝ} (hrate : -1 < rate) (hrate' : 1e-12 < |rate|)
    (pv fv pmt n : ℝ) (timing : Timing) :
    HasDerivAt (fun r => residual pv fv pmt r n timing) (residualSlope pv pmt rate n timing) rate := by
  cases timing with
  | ordinary => exact residual_hasDerivAt_of_factor hrate hrate' pv fv pmt n (hasDerivAt_const rate 1)
  | due =>
    exact residual_hasDerivAt_of_factor hrate hrate' pv fv pmt n ((hasDerivAt_id' rate).const_add 1)

/-- The powers of a sum of one and a rate have the slopes `0, 1, 2, …` at a rate of zero. -/
theorem sum_pow_hasDerivAt (n : ℕ) :
    HasDerivAt (fun r : ℝ => ∑ k ∈ range n, (1 + r) ^ k) (∑ k ∈ range n, (k : ℝ)) 0 := by
  refine HasDerivAt.fun_sum fun k _ => ?_
  refine (((hasDerivAt_id' (0 : ℝ)).const_add 1).pow k).congr_deriv ?_
  rw [add_zero, one_pow, mul_one, mul_one]

theorem annuitySlope_zero (n : ℕ) : annuitySlope (0 : ℝ) n = ∑ k ∈ range n, (k : ℝ) := by
  have hzero : isZeroRate (0 : ℝ) = true := (isZeroRate_iff (.inl rfl)).mpr rfl
  rw [annuitySlope, if_pos hzero]
  induction n with
  | zero => simp
  | succ n ih =>
    rw [sum_range_succ, ← ih]
    push_cast
    ring

/-- Wherever Newton's method asks for a slope of the residual, away from the rates that are taken for
zero, it is given the derivative of the residual there; and the slope of the annuity factor at a rate of
zero is the derivative of the sum of powers. -/
theorem residualSlope_isDerivative (pv fv pmt : ℝ) (n : ℕ) (timing : Timing) :
    (∀ rate, -1 < rate → residual? pv fv pmt n timing rate = some (residual pv fv pmt rate n timing)) ∧
    (∀ rate, -1 < rate → 1e-12 < |rate| →
      ∃ slope, residualSlope? pv pmt n timing rate = some slope ∧
        HasDerivAt (fun r => residual pv fv pmt r n timing) slope rate) ∧
    HasDerivAt (fun r : ℝ => ∑ k ∈ range n, (1 + r) ^ k) (annuitySlope 0 n) 0 := by
  refine ⟨fun rate hrate => residual?_eq_some hrate pv fv pmt n timing, fun rate hrate hrate' => ?_, ?_⟩
  · refine ⟨residualSlope pv pmt rate n timing, ?_, residual_hasDerivAt hrate hrate' pv fv pmt n timing⟩
    exact if_neg hrate.not_ge
  · rw [annuitySlope_zero]
    exact sum_pow_hasDerivAt n

/-- Payments at the beginning of each of three periods, at a rate that loses half. -/
theorem residualSlope_isDerivative_halving :
    (-1 : ℝ) < -1 / 2 ∧ (1e-12 : ℝ) < |-1 / 2| ∧
      ∃ slope, residualSlope? (100 : ℝ) 10 (3 : ℕ) .due (-1 / 2) = some slope ∧
        HasDerivAt (fun r => residual (100 : ℝ) 7 10 r (3 : ℕ) .due) slope (-1 / 2) := by
  have hrate : (-1 : ℝ) < -1 / 2 := by norm_num
  have hrate' : (1e-12 : ℝ) < |-1 / 2| := by norm_num [abs_of_neg]
  exact ⟨hrate, hrate', (residualSlope_isDerivative 100 7 10 3 .due).2.1 _ hrate hrate'⟩

end Annuity

end Reckoner
