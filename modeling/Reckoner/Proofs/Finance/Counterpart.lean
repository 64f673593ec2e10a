import Reckoner.Proofs.Finance.RateSearch
import Reckoner.Proofs.RootSearch.Reflection

/-!
# Both sides of a deal

What one side of a deal pays the other receives, so with every amount negated a problem is the same deal
seen by the other side. In exact arithmetic both sides come to the same answer, with the solved amount
negated, and fail for the same reason. The one exception is a number of periods without payments,
which is only looked for from a positive present value.
-/

namespace Reckoner

open Scalar Annuity RootSearch

variable {K : Type} [Elementary K] [Field K] [LinearOrder K] [FloorRing K]

/-- Amounts of money change their sign from one side to the other, the rate and the term do not. -/
def Quantity.counterpart : Quantity → K → K
  | presentValue, x | futureValue, x | payment, x => -x
  | ratePerPeriod, x | numberOfPeriods, x => x

/-- The same deal seen by the other side. -/
def Problem.counterpart (p : Problem K) : Problem K :=
  { p with
    presentValue := p.presentValue.map Neg.neg
    futureValue := p.futureValue.map Neg.neg
    payment := p.payment.map Neg.neg }

/-- The answer as the other side has it. -/
def Solution.counterpart (s : Solution K) : Solution K :=
  { s with
    value := s.solvedFor.counterpart s.value
    presentValue := -s.presentValue
    futureValue := -s.futureValue
    payment := -s.payment }

namespace Problem

variable {p : Problem K}

theorem get?_counterpart (p : Problem K) (q : Quantity) :
    p.counterpart.get? q = (p.get? q).map q.counterpart := by
  cases q with
  | presentValue => rfl
  | futureValue => rfl
  | payment => rfl
  | ratePerPeriod => exact Option.map_id'.symm
  | numberOfPeriods => exact Option.map_id'.symm

theorem Valid.counterpart (valid : p.Valid) : p.counterpart.Valid where
  unknown := by
    rw [get?_counterpart]
    exact congrArg (Option.map _) valid.unknown
  given q hq := by
    obtain ⟨x, hx⟩ := valid.given q hq
    exact ⟨q.counterpart x, by rw [get?_counterpart, hx, Option.map_some]⟩
  rate_gt := valid.rate_gt
  periodsPerYear_pos := valid.periodsPerYear_pos

end Problem

namespace SolverConfig

variable {p : Problem K}

/-- Signs that are opposite are so for both sides. -/
theorem flowSign_counterpart (p : Problem K) : flowSign p.counterpart = flowSign p := by
  unfold flowSign
  simp only [Problem.counterpart]
  cases p.presentValue with
  | none => rfl
  | some pv =>
    cases p.futureValue with
    | none => rfl
    | some fv => simp only [Option.map_some, neg_mul_neg]

theorem turn_counterpart (p : Problem K) (q : Quantity) (x : K) :
    turn p.counterpart q (q.counterpart x) = q.counterpart (turn p q x) := by
  cases q with
  | presentValue =>
    show -x * flowSign p.counterpart = -(x * flowSign p)
    rw [flowSign_counterpart, neg_mul]
  | payment =>
    show -x * flowSign p.counterpart = -(x * flowSign p)
    rw [flowSign_counterpart, neg_mul]
  | futureValue => rfl
  | ratePerPeriod => rfl
  | numberOfPeriods => rfl

theorem balanced_counterpart (p : Problem K) (q : Quantity) :
    balanced p.counterpart q = q.counterpart (balanced p q) := by
  have hnothing : q.counterpart (0 : K) = 0 := by cases q <;> simp [Quantity.counterpart]
  rw [balanced, balanced, ← turn_counterpart, Problem.get?_counterpart]
  cases p.get? q with
  | none => rw [Option.map_none, Option.getD_none, hnothing]
  | some x => rfl

theorem reported_counterpart (p : Problem K) (b : Quantity → K) :
    reported p.counterpart (fun q => q.counterpart (b q)) = (reported p b).counterpart := by
  simp only [reported, turn_counterpart]
  rfl

end SolverConfig

namespace Annuity

variable (pv fv pmt rate n : K) (timing : Timing)

theorem futureValue_neg : futureValue (-pv) (-pmt) rate n timing = -futureValue pv pmt rate n timing := by
  unfold futureValue
  ring

theorem presentValue_neg :
    presentValue (-fv) (-pmt) rate n timing = -presentValue fv pmt rate n timing := by
  unfold presentValue
  ring

theorem payment_neg :
    payment (-pv) (-fv) rate n timing = (payment pv fv rate n timing).map Neg.neg := by
  unfold payment
  dsimp only
  split
  · rfl
  · refine congrArg Except.ok ?_
    ring

theorem residual?_neg :
    IsReflected (residual? pv fv pmt n timing) (residual? (-pv) (-fv) (-pmt) n timing) := by
  intro rate
  unfold residual? residual
  split
  · rfl
  · rw [futureValue_neg, neg_sub_neg, ← neg_sub]
    rfl

theorem residualSlope?_neg :
    IsReflected (residualSlope? pv pmt n timing) (residualSlope? (-pv) (-pmt) n timing) := by
  intro rate
  have hslope : residualSlope (-pv) (-pmt) rate n timing = -residualSlope pv pmt rate n timing := by
    unfold residualSlope
    ring
  unfold residualSlope?
  split
  · rfl
  · rw [hslope]
    rfl

variable {pv fv pmt rate n timing}

/-- With payments the number of periods comes from a ratio, in which the signs cancel. -/
theorem numberOfPeriods_neg [IsStrictOrderedRing K] (hpmt : pmt ≠ 0) :
    numberOfPeriods (-pv) (-fv) (-pmt) rate timing = numberOfPeriods pv fv pmt rate timing := by
  have hpays : (pmt == 0) = false := decide_eq_false hpmt
  have hlinear : (-fv - -pv) / -pmt = (fv - pv) / pmt := by
    rw [neg_sub_neg, ← neg_sub, neg_div_neg_eq]
  have hratio : (-fv + -pmt * timing.factor rate / rate) / (-pv + -pmt * timing.factor rate / rate) =
      (fv + pmt * timing.factor rate / rate) / (pv + pmt * timing.factor rate / rate) := by
    rw [neg_mul, neg_div, ← neg_add, ← neg_add, neg_div_neg_eq]
  unfold numberOfPeriods rawPeriods
  simp only [beq_zero_neg, hpays, Bool.false_and, hlinear, hratio]

/-- Without payments only a positive present value is asked for its number of periods. -/
theorem presentValue_pos_of_numberOfPeriods (h : numberOfPeriods pv fv 0 rate timing = .ok n) :
    0 < pv := by
  have hnone : ((0 : K) == 0) = true := decide_eq_true rfl
  by_contra hpv
  have hraw : ∃ failure, rawPeriods pv fv 0 rate timing = .error failure := by
    unfold rawPeriods
    simp only [hnone, Bool.true_and, decide_eq_true (not_lt.mp hpv), if_true]
    split <;> exact ⟨_, rfl⟩
  obtain ⟨failure, hfailure⟩ := hraw
  unfold numberOfPeriods at h
  rw [hfailure] at h
  cases h

end Annuity

namespace SolverConfig

theorem amountScale_neg (pv fv pmt : K) : amountScale (-pv) (-fv) (-pmt) = amountScale pv fv pmt := by
  unfold amountScale
  simp only [scalarAbs_neg]

theorem one_le_amountScale (pv fv pmt : K) : 1 ≤ amountScale pv fv pmt := by
  unfold amountScale
  rw [greater_ofField]
  exact le_max_right _ _

variable {config : SolverConfig K} {p : Problem K}

theorem balanced_payment_eq_zero (hpays : p.payment = some 0) : balanced p .payment = 0 := by
  have hzero : balanced p .payment = 0 * flowSign p := congrArg (·.getD 0 * flowSign p) hpays
  rw [hzero, zero_mul]

variable [IsStrictOrderedRing K]

/-- The search for a rate takes the same course on both sides. -/
theorem solveRate_neg (htolerance : 0 < config.tolerance) (pv fv pmt n : K) (timing : Timing) :
    config.solveRate (-pv) (-fv) (-pmt) n timing = config.solveRate pv fv pmt n timing := by
  have hscaled : 0 < config.tolerance * amountScale pv fv pmt :=
    mul_pos htolerance (one_pos.trans_le (one_le_amountScale pv fv pmt))
  have hresidual := residual?_neg pv fv pmt n timing
  have hslope := residualSlope?_neg pv pmt n timing
  unfold solveRate rateByNewton? rateByBisection?
  simp only [amountScale_neg, newton_reflected hresidual hslope, bracket?_reflected hresidual,
    bisect_reflected hresidual hscaled]

theorem missing_counterpart (htolerance : 0 < config.tolerance) (timing : Timing) (b : Quantity → K)
    {unknown : Quantity} (hpays : unknown = .numberOfPeriods → b .payment ≠ 0) :
    config.missing timing (fun q => q.counterpart (b q)) unknown =
      (config.missing timing b unknown).map unknown.counterpart := by
  cases unknown with
  | futureValue => exact congrArg Except.ok (futureValue_neg ..)
  | presentValue => exact congrArg Except.ok (presentValue_neg ..)
  | payment => exact payment_neg ..
  | numberOfPeriods => exact (numberOfPeriods_neg (hpays rfl)).trans (id_map _).symm
  | ratePerPeriod => exact (solveRate_neg htolerance _ _ _ _ _).trans (id_map _).symm

theorem balanced_payment_ne_zero (valid : p.Valid) (hunknown : p.solveFor = .numberOfPeriods)
    (hpays : p.payment ≠ some 0) : balanced p .payment ≠ 0 := by
  obtain ⟨pmt, hpmt⟩ := valid.given .payment (by rw [hunknown]; decide)
  rw [balanced, hpmt]
  have hsign : flowSign p ≠ 0 := left_ne_zero_of_mul_eq_one (flowSign_mul_self p)
  refine mul_ne_zero ?_ hsign
  rintro rfl
  exact hpays hpmt

theorem solve_counterpart_eq (htolerance : 0 < config.tolerance) (valid : p.Valid)
    (hpays : p.solveFor = .numberOfPeriods → p.payment ≠ some 0) :
    config.solve p.counterpart = (config.solve p).map Solution.counterpart := by
  have hbalanced : balanced p.counterpart = fun q => q.counterpart (balanced p q) :=
    funext (balanced_counterpart p)
  have hmissing := missing_counterpart htolerance p.timing (balanced p)
    fun hunknown => balanced_payment_ne_zero valid hunknown (hpays hunknown)
  rw [solve_eq_of_valid config valid.counterpart, solve_eq_of_valid config valid, hbalanced]
  show (config.missing p.timing _ p.solveFor).map _ = _
  rw [hmissing]
  cases config.missing p.timing (balanced p) p.solveFor with
  | error failure => rfl
  | ok value =>
    have hupdate : Function.update (fun q => q.counterpart (balanced p q)) p.solveFor
        (p.solveFor.counterpart value) =
        fun q => q.counterpart (Function.update (balanced p) p.solveFor value q) :=
      funext fun q => (Function.apply_update Quantity.counterpart (balanced p) p.solveFor value q).symm
    refine congrArg Except.ok (Eq.trans ?_ (reported_counterpart p _))
    exact congrArg (reported p.counterpart) hupdate

/-- The other side has the same answer with its amounts negated, or the same failure. Only for a number of
periods without payments do the sides differ: it is found from a positive present value alone. -/
theorem solve_counterpart (htolerance : 0 < config.tolerance) (hvalid : p.validate = .ok ()) :
    (¬ (p.solveFor = .numberOfPeriods ∧ p.payment = some 0) →
      config.solve p.counterpart = (config.solve p).map Solution.counterpart) ∧
    (p.solveFor = .numberOfPeriods ∧ p.payment = some 0 →
      ∀ s, config.solve p = .ok s → 0 < balanced p .presentValue) := by
  have valid := Problem.validate_eq_ok_iff.mp hvalid
  constructor
  · intro hpays
    exact solve_counterpart_eq htolerance valid fun hunknown hpmt => hpays ⟨hunknown, hpmt⟩
  · rintro ⟨hunknown, hpmt⟩ s hs
    obtain ⟨n, hn, -⟩ := exists_missing_of_solve hs
    rw [hunknown, missing, balanced_payment_eq_zero hpmt] at hn
    exact presentValue_pos_of_numberOfPeriods hn

/-- A thousand paid in that is drawn as two thousand after ten periods. -/
def drawnDecade : Problem ℚ := { doublingDecade with presentValue := some (-1000) }

/-- The number of periods in which a balance doubles. -/
def doublingTerm : Problem ℚ :=
  { Problem.solvingFor .numberOfPeriods with
    presentValue := some 1000, futureValue := some 2000, payment := some 0, ratePerPeriod := some 1 }

theorem solve_counterpart_doubling :
    (0 < (standard : SolverConfig ℚ).tolerance ∧ drawnDecade.validate = .ok () ∧
      standard.solve drawnDecade.counterpart = (standard.solve drawnDecade).map Solution.counterpart) ∧
    doublingTerm.validate = .ok () ∧ ∃ s, standard.solve doublingTerm = .ok s ∧
      0 < balanced doublingTerm .presentValue := by
  have htolerance : 0 < (standard : SolverConfig ℚ).tolerance := by decide +kernel
  have hdrawn : drawnDecade.validate = .ok () := by
    rw [Problem.validate_eq_ok_iff, Problem.valid_iff]
    decide +kernel
  have hterm : doublingTerm.validate = .ok () := by
    rw [Problem.validate_eq_ok_iff, Problem.valid_iff]
    decide +kernel
  obtain ⟨s, hs⟩ : ∃ s, standard.solve doublingTerm = .ok s :=
    Answer.exists_eq_ok_of_isSome (by decide +kernel)
  exact ⟨⟨htolerance, hdrawn, (solve_counterpart htolerance hdrawn).1 (by decide)⟩, hterm, s, hs,
    (solve_counterpart htolerance hterm).2 ⟨rfl, rfl⟩ s hs⟩

end SolverConfig

end Reckoner
