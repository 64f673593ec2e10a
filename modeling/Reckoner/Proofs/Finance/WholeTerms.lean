import Reckoner.Proofs.Finance.Balance

/-!
# Annuities over whole terms

Over a whole number of periods growth is a product, and the closed forms of the annuity equation
satisfy the recurrences of a ledger: a period adds the interest and then the payment. So the future
value is what a ledger comes to that is kept period by period, and the present value leads back to its
first balance.
-/

namespace Reckoner.Annuity

variable {K : Type} [Elementary K] [Field K] [LinearOrder K] [FloorRing K] [IsStrictOrderedRing K]
  [Elementary.WholePowers K] {rate : K}

theorem compoundFactor_natCast (hrate : -1 < rate) (k : ℕ) :
    compoundFactor rate k = (1 + rate) ^ k := by
  have hbase : 0 < 1 + rate := neg_lt_iff_pos_add'.mp hrate
  have hpow := Elementary.WholePowers.pow_intCast hbase.ne' (k : ℤ)
  rw [Int.cast_natCast, zpow_natCast] at hpow
  exact hpow

theorem compoundFactor_neg_natCast (hrate : -1 < rate) (k : ℕ) :
    compoundFactor rate (-(k : K)) = ((1 + rate) ^ k)⁻¹ := by
  have hbase : 0 < 1 + rate := neg_lt_iff_pos_add'.mp hrate
  have hpow := Elementary.WholePowers.pow_intCast hbase.ne' (-(k : ℤ))
  rw [Int.cast_neg, Int.cast_natCast, zpow_neg, zpow_natCast] at hpow
  exact hpow

theorem compoundFactor_zero (hrate : -1 < rate) : compoundFactor rate (0 : K) = 1 := by
  rw [← Nat.cast_zero, compoundFactor_natCast hrate, pow_zero]

theorem compoundFactor_succ (hrate : -1 < rate) (k : ℕ) :
    compoundFactor rate ((k + 1 : ℕ) : K) = compoundFactor rate k * (1 + rate) := by
  rw [compoundFactor_natCast hrate, compoundFactor_natCast hrate, pow_succ]

theorem grows_natCast (hrate : -1 < rate) (k : ℕ) : Grows rate (k : K) := by
  have hbase : 0 < 1 + rate := neg_lt_iff_pos_add'.mp hrate
  refine ⟨compoundFactor_natCast hrate k ▸ pow_pos hbase k, ?_⟩
  rw [compoundFactor_natCast hrate, Nat.cast_eq_zero]
  by_cases hk : k = 0
  · simp [hk]
  · rw [pow_eq_one_iff_of_nonneg hbase.le hk, add_eq_left]
    simp [hk]

theorem mul_unitAnnuity (hrate : -1 < rate) (k : ℕ) :
    rate * unitAnnuity rate (k : K) = compoundFactor rate k - 1 := by
  unfold unitAnnuity
  split
  · rename_i hzero
    rw [compoundFactor_natCast hrate, hzero, zero_mul, add_zero, one_pow, sub_self]
  · rename_i hne
    rw [mul_div_cancel₀ _ hne]

theorem unitAnnuity_zero (hrate : -1 < rate) : unitAnnuity rate (0 : K) = 0 := by
  unfold unitAnnuity
  rw [compoundFactor_zero hrate, sub_self, zero_div, ite_self]

theorem unitAnnuity_succ (hrate : -1 < rate) (k : ℕ) :
    unitAnnuity rate ((k + 1 : ℕ) : K) = unitAnnuity rate k * (1 + rate) + 1 := by
  unfold unitAnnuity
  split
  · rename_i hzero
    rw [hzero, add_zero, mul_one, Nat.cast_succ]
  · rename_i hne
    rw [compoundFactor_succ hrate]
    field_simp
    ring

theorem unitAnnuity_nonneg (hrate : -1 < rate) (k : ℕ) : 0 ≤ unitAnnuity rate (k : K) := by
  induction k with
  | zero => rw [Nat.cast_zero, unitAnnuity_zero hrate]
  | succ k ih =>
    have hbase : 0 < 1 + rate := neg_lt_iff_pos_add'.mp hrate
    rw [unitAnnuity_succ hrate]
    exact add_nonneg (mul_nonneg ih hbase.le) zero_le_one

theorem unitAnnuity_pos (hrate : -1 < rate) {n : ℕ} (hn : 0 < n) : 0 < unitAnnuity rate (n : K) := by
  have hne : unitAnnuity rate (n : K) ≠ 0 :=
    (unitAnnuity_eq_zero_iff (grows_natCast hrate n)).not.mpr (Nat.cast_ne_zero.mpr hn.ne')
  exact (unitAnnuity_nonneg hrate n).lt_of_ne' hne

theorem futureValue_zero (hrate : -1 < rate) (hrate' : rate = 0 ∨ 1e-12 ≤ |rate|) (pv pmt : K)
    (timing : Timing) : futureValue pv pmt rate 0 timing = pv := by
  rw [futureValue_eq hrate', compoundFactor_zero hrate, unitAnnuity_zero hrate]
  ring

/-- A period adds the interest on the value and the payment that is due in it. -/
theorem futureValue_succ (hrate : -1 < rate) (hrate' : rate = 0 ∨ 1e-12 ≤ |rate|) (pv pmt : K)
    (timing : Timing) (k : ℕ) :
    futureValue pv pmt rate ((k + 1 : ℕ) : K) timing =
      futureValue pv pmt rate k timing * (1 + rate) + pmt * timing.factor rate := by
  rw [futureValue_eq hrate', futureValue_eq hrate', compoundFactor_succ hrate,
    unitAnnuity_succ hrate]
  ring

theorem presentValue_futureValue (hrate : -1 < rate) (hrate' : rate = 0 ∨ 1e-12 ≤ |rate|) (pv pmt : K)
    (timing : Timing) (n : ℕ) :
    presentValue (futureValue pv pmt rate n timing) pmt rate n timing = pv := by
  have grows : Grows rate (n : K) := grows_natCast hrate n
  have hvalue := presentValue_mul_compoundFactor hrate' grows (futureValue pv pmt rate n timing) pmt
    timing
  rw [futureValue_eq hrate', add_sub_cancel_right] at hvalue
  rw [futureValue_eq hrate']
  exact mul_right_cancel₀ grows.pos.ne' hvalue

/-- The future value is the last balance of a ledger in which every period adds the interest and the
payment that is due in it. -/
theorem futureValue_eq_iterate (hrate : -1 < rate) (hrate' : rate = 0 ∨ 1e-12 ≤ |rate|) {pmt : K}
    {timing : Timing} {period : K → K}
    (hperiod : ∀ balance, period balance = balance * (1 + rate) + pmt * timing.factor rate) (pv : K)
    (n : ℕ) : futureValue pv pmt rate n timing = period^[n] pv := by
  induction n with
  | zero => rw [Nat.cast_zero, futureValue_zero hrate hrate', Function.iterate_zero_apply]
  | succ n ih => rw [futureValue_succ hrate hrate', ih, Function.iterate_succ_apply', hperiod]

/-- The closed forms against the ledger, for payments at the end and at the beginning of each
period. -/
theorem closedForms_eq_ledger (hrate : -1 < rate) (hrate' : rate = 0 ∨ 1e-12 ≤ |rate|) (pv pmt : K)
    (n : ℕ) :
    (futureValue pv pmt rate n .ordinary = (fun balance => balance * (1 + rate) + pmt)^[n] pv ∧
      presentValue ((fun balance => balance * (1 + rate) + pmt)^[n] pv) pmt rate n .ordinary = pv) ∧
    futureValue pv pmt rate n .due = (fun balance => (balance + pmt) * (1 + rate))^[n] pv ∧
      presentValue ((fun balance => (balance + pmt) * (1 + rate))^[n] pv) pmt rate n .due = pv := by
  have hend : futureValue pv pmt rate n .ordinary =
      (fun balance => balance * (1 + rate) + pmt)^[n] pv := by
    refine futureValue_eq_iterate hrate hrate' (fun balance => ?_) pv n
    rw [Timing.factor, mul_one]
  have hbeginning : futureValue pv pmt rate n .due =
      (fun balance => (balance + pmt) * (1 + rate))^[n] pv := by
    refine futureValue_eq_iterate hrate hrate' (fun balance => ?_) pv n
    rw [Timing.factor, add_mul]
  refine ⟨⟨hend, ?_⟩, hbeginning, ?_⟩
  · rw [← hend, presentValue_futureValue hrate hrate']
  · rw [← hbeginning, presentValue_futureValue hrate hrate']

/-- A balance that halves in every period, with ten paid at the beginning of each. -/
theorem closedForms_eq_ledger_halving :
    (-1 : ℚ) < -1 / 2 ∧ (1e-12 : ℚ) ≤ |-1 / 2| ∧
    futureValue (100 : ℚ) 10 (-1 / 2) (3 : ℕ) .due =
      (fun balance => (balance + 10) * (1 + -1 / 2))^[3] 100 ∧
    presentValue ((fun balance => (balance + 10) * (1 + -1 / 2))^[3] (100 : ℚ)) 10 (-1 / 2) (3 : ℕ)
      .due = 100 := by
  have hrate : (-1 : ℚ) < -1 / 2 := by norm_num
  have hrate' : (1e-12 : ℚ) ≤ |-1 / 2| := by norm_num [abs_of_neg]
  exact ⟨hrate, hrate', (closedForms_eq_ledger hrate (.inr hrate') 100 10 3).2⟩

end Reckoner.Annuity
