import Mathlib
import Reckoner.Proofs.Double.Laws
import Reckoner.Proofs.Finance.RateSearch

/-!
# The tolerance of a rate

A rate that is found is above `-1`, and the residual there is within the tolerance unless the search
ran out of room: it then ends at the spacing of numbers, with whatever residual a steep equation has
there. This holds of doubles as of exact numbers, since the search needs little of their order.
-/

namespace Reckoner

open Scalar Annuity RootSearch

namespace SolverConfig

/-- What the search for a rate needs of the order of numbers. -/
class OrdersRates (α : Type) [Scalar α] : Prop where
  candidate_gt : ∀ c ∈ (bracketCandidates : List α), -1 < c
  middle_gt {lo hi : α} : -1 < lo → -1 < hi → ¬ 0.5 * (lo + hi) ≤ -1 → -1 < 0.5 * (lo + hi)
  abs_lt_of_zero {y tolerance : α} :
    (y == 0) = true → 0 < tolerance → ∀ a, abs y < tolerance * greater a 1

instance OrdersRates.ofField {K : Type} [Elementary K] [Field K] [LinearOrder K] [FloorRing K]
    [IsStrictOrderedRing K] : OrdersRates K where
  candidate_gt c hc := (bracketCandidates_bounds c hc).1
  middle_gt _ _ h := not_le.mp h
  abs_lt_of_zero {y tolerance} hy htolerance a := by
    have hzero : y = 0 := of_decide_eq_true hy
    have habs : Scalar.abs y = 0 := by
      rw [hzero]
      exact abs_zero
    rw [habs, greater_ofField]
    exact mul_pos htolerance (one_pos.trans_le (le_max_right a 1))

instance OrdersRates.double : OrdersRates Float where
  candidate_gt := by decide +kernel
  middle_gt := Double.middle_gt
  abs_lt_of_zero := Double.abs_lt_of_zero

variable {α : Type} [Scalar α] {config : SolverConfig α} {p : Problem α} {s : Solution α}

theorem ratePerPeriod_of_solve (hunknown : p.solveFor = .ratePerPeriod)
    (h : config.solve p = .ok s) : s.ratePerPeriod = s.value := by
  have hamount := amount_solveFor h
  rw [hunknown] at hamount
  exact hamount

section

variable {pv fv pmt n rate : α} {timing : Timing}

theorem solveRate_gt [OrdersRates α] (h : config.solveRate pv fv pmt n timing = .ok rate) :
    -1 < rate := by
  obtain ⟨-, hnewton | hbisection⟩ := solveRate_eq_ok h
  · exact (rateByNewton?_eq_some hnewton).1
  · refine rateByBisection?_preserves (P := (-1 < ·)) ?_ ?_ hbisection
    · intro c hc _ _
      exact OrdersRates.candidate_gt c hc
    · intro lo hi y hlo hhi hvalue
      exact OrdersRates.middle_gt hlo hhi (residual?_eq_some_iff.mp hvalue).1

theorem abs_residual_lt_of_isNear [OrdersRates α] {tolerance : α} (htolerance : 0 < tolerance)
    (h : IsNear (residual? pv fv pmt n timing) (tolerance * amountScale pv fv pmt) rate) :
    abs (residual pv fv pmt rate n timing) < tolerance * amountScale pv fv pmt := by
  obtain ⟨y, hvalue, hnear⟩ := h
  obtain ⟨-, -, rfl⟩ := residual?_eq_some_iff.mp hvalue
  rcases hnear with hzero | hnear
  · -- An end of a bracket that is a root already.
    exact OrdersRates.abs_lt_of_zero hzero htolerance _
  · exact hnear

end

/-- The rate in a solution is above `-1`, and the residual there is within the tolerance, unless the
search ended at the spacing of numbers: with a Newton step too short to count or a bracket too narrow
to halve. -/
theorem solve_rate_within [OrdersRates α] (hunknown : p.solveFor = .ratePerPeriod)
    (htolerance : 0 < config.tolerance) (h : config.solve p = .ok s) :
    s.value = s.ratePerPeriod ∧ -1 < s.ratePerPeriod ∧
      (abs (p.residual s.ratePerPeriod) < config.tolerance * p.scale ∨
        IsStalled p.residual? p.residualSlope? s.ratePerPeriod ∨
        IsHalved p.residual? s.ratePerPeriod) := by
  have hrate := solveRate_of_solve hunknown h
  rw [ratePerPeriod_of_solve hunknown h]
  exact ⟨rfl, solveRate_gt hrate,
    (solveRate_ends hrate).imp (abs_residual_lt_of_isNear htolerance) id⟩

theorem solve_rate_within_doublingDecade :
    doublingDecade.solveFor = .ratePerPeriod ∧ 0 < (standard : SolverConfig ℚ).tolerance ∧
      ∃ s, standard.solve doublingDecade = .ok s ∧ s.value = s.ratePerPeriod ∧
        -1 < s.ratePerPeriod ∧
        (|doublingDecade.residual s.ratePerPeriod| <
            (standard : SolverConfig ℚ).tolerance * doublingDecade.scale ∨
          IsStalled doublingDecade.residual? doublingDecade.residualSlope? s.ratePerPeriod ∨
          IsHalved doublingDecade.residual? s.ratePerPeriod) := by
  have htolerance : 0 < (standard : SolverConfig ℚ).tolerance := by decide +kernel
  obtain ⟨s, hs, -⟩ := exists_solution_of_changesSign standard rfl doublingDecade_valid rfl
    doublingDecade_periods_pos doublingDecade_changesSign
  exact ⟨rfl, htolerance, s, hs, solve_rate_within rfl htolerance hs⟩

section

variable {K : Type} [Elementary K] [Field K] [LinearOrder K] [FloorRing K]

/-- A rate is found at which the residual is not within the tolerance. -/
def Overshoots (config : SolverConfig K) (p : Problem K) : Prop :=
  ∃ s, config.solve p = .ok s ∧
    config.tolerance * p.scale ≤ |p.residual s.ratePerPeriod|

def overshot (config : SolverConfig K) (p : Problem K) : Answer K Bool := do
  let s ← config.solve p
  return decide (config.tolerance * p.scale ≤ |p.residual s.ratePerPeriod|)

theorem overshoots_of_overshot {config : SolverConfig K} {p : Problem K}
    (h : (overshot config p).toOption.map id = some true) : Overshoots config p := by
  obtain ⟨_, hovershot, rfl⟩ := Answer.exists_eq_ok_of_map h
  obtain ⟨s, hs, hovershot⟩ := Answer.bind_eq_ok_iff.mp hovershot
  exact ⟨s, hs, of_decide_eq_true (Except.ok.inj hovershot)⟩

end

/-- A unit lent at an interest that is paid in each period, so that a unit is owed at the end. -/
def heldUnit (rate n : ℚ) : Problem ℚ :=
  { Problem.solvingFor .ratePerPeriod with
    presentValue := some 1, futureValue := some 1, payment := some (-rate),
    numberOfPeriods := some n }

/-- Over many periods at a high rate the residual is so steep that a Newton step is lost to rounding
far from the root, and so is a bracket that has been halved to the spacing of numbers. -/
theorem solve_rate_overshoots :
    0 < (standard : SolverConfig ℚ).tolerance ∧
      Overshoots standard (heldUnit 0.1000000000000002 500) ∧
      Overshoots standard (heldUnit 0.10585 200) :=
  ⟨by decide +kernel, overshoots_of_overshot (by decide +kernel),
    overshoots_of_overshot (by decide +kernel)⟩

end SolverConfig

end Reckoner
