import Reckoner.Proofs.Exact.Real
import Reckoner.Proofs.Finance.Problem
import Reckoner.Library.Finance

/-!
# Nominal and effective rates

Compounding a rate over a number of periods is undone by compounding over the inverse of that number, as
long as a period leaves something of what it began with. `nominal` answers with such rates only and
`effect` takes every one of them back. But `effect` also compounds rates that lose everything within a
period, or more, and these `nominal` cannot give back.
-/

namespace Reckoner

namespace Annuity

theorem compoundFactor_pos {rate : ℝ} (hrate : -1 < rate) (n : ℝ) : 0 < compoundFactor rate n :=
  Elementary.pow_real_pos (neg_lt_iff_pos_add'.mp hrate) n

/-- Compounding over the inverse of a number of periods undoes compounding over the number. -/
theorem compoundFactor_undone {rate n : ℝ} (hrate : -1 < rate) (hn : n ≠ 0) :
    compoundFactor (compoundFactor rate n - 1) (1 / n) = 1 + rate := by
  show (1 + ((1 + rate) ^ n - 1)) ^ (1 / n) = 1 + rate
  rw [add_sub_cancel, one_div]
  exact Real.rpow_rpow_inv (neg_lt_iff_pos_add'.mp hrate).le hn

end Annuity

namespace Library

open Scalar Annuity

section

variable {K : Type} [Elementary K] [Field K] [LinearOrder K] [FloorRing K]

theorem compoundingPeriods_eq_ok_iff {name : String} {given periods : K} :
    compoundingPeriods name given = .ok periods ↔ 1 ≤ given ∧ truncate given = periods := by
  unfold compoundingPeriods
  by_cases h : given < 1
  · simp [h, Cause.throw]
  · simp [h, not_lt.mp h]

variable {rate given answer : K}

theorem effectRule_eq_ok_iff : effectRule [rate, given] = .ok answer ↔
    1 ≤ given ∧ compoundFactor (rate / truncate given) (truncate given) - 1 = answer := by
  have hrule : effectRule [rate, given] = compoundingPeriods "effect" given >>= fun periods =>
      (.ok (compoundFactor (rate / periods) periods - 1) : Answer K K) := rfl
  simp [hrule, Answer.bind_eq_ok_iff, compoundingPeriods_eq_ok_iff]

theorem nominalRule_eq_ok_iff : nominalRule [rate, given] = .ok answer ↔
    1 ≤ given ∧ -1 < rate ∧
      truncate given * (compoundFactor rate (1 / truncate given) - 1) = answer := by
  have hrule : nominalRule [rate, given] = compoundingPeriods "nominal" given >>= fun periods =>
      checkRate "nominal" rate >>= fun _ =>
        (.ok (periods * (compoundFactor rate (1 / periods) - 1)) : Answer K K) := rfl
  rw [hrule, Answer.bind_eq_ok_iff]
  simp [compoundingPeriods_eq_ok_iff, Answer.and_then_eq_ok_iff, checkRate_eq_ok_iff, and_assoc]

theorem one_le_truncate [IsStrictOrderedRing K] (h : 1 ≤ given) : 1 ≤ truncate given := by
  rw [truncate, if_neg (not_lt.mpr (zero_le_one.trans h))]
  have hfloor : (1 : ℤ) ≤ ⌊given⌋ := Int.le_floor.mpr (by rwa [Int.cast_one])
  show (1 : K) ≤ (⌊given⌋ : K)
  exact_mod_cast hfloor

end

/-- `nominal` answers with a rate exactly when `effect` leads back from it and it does not lose everything
within one of the periods. -/
theorem nominalRule_undoes_effectRule (x y m : ℝ) :
    nominalRule [y, m] = .ok x ↔ effectRule [x, m] = .ok y ∧ -truncate m < x := by
  rw [nominalRule_eq_ok_iff, effectRule_eq_ok_iff]
  constructor
  · rintro ⟨hm, hy, rfl⟩
    have hperiods : 0 < truncate m := zero_lt_one.trans_le (one_le_truncate hm)
    have hgrowth : 0 < compoundFactor y (1 / truncate m) := compoundFactor_pos hy _
    refine ⟨⟨hm, ?_⟩, ?_⟩
    · have hundone := compoundFactor_undone hy (one_div_ne_zero hperiods.ne')
      rw [one_div_one_div] at hundone
      rw [mul_div_cancel_left₀ _ hperiods.ne', hundone, add_sub_cancel_left]
    · calc -truncate m = truncate m * (0 - 1) := by ring
        _ < truncate m * (compoundFactor y (1 / truncate m) - 1) :=
          mul_lt_mul_of_pos_left (sub_lt_sub_right hgrowth 1) hperiods
  · rintro ⟨⟨hm, rfl⟩, hx⟩
    have hperiods : 0 < truncate m := zero_lt_one.trans_le (one_le_truncate hm)
    have hperiod : -1 < x / truncate m := by rwa [lt_div_iff₀ hperiods, neg_one_mul]
    refine ⟨hm, ?_, ?_⟩
    · linarith [compoundFactor_pos hperiod (truncate m)]
    · rw [compoundFactor_undone hperiod hperiods.ne', add_sub_cancel_left, mul_div_cancel₀ _ hperiods.ne']

end Library

end Reckoner
