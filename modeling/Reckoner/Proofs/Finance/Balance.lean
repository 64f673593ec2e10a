import Mathlib.Tactic.FieldSimp
import Mathlib.Tactic.LinearCombination
import Reckoner.Proofs.Finance.Problem
import Reckoner.Proofs.Finance.Solving

/-!
# Solutions balance

A solved problem satisfies the annuity equation with present value and payment read in one sign: the
sign of signed cash flows when present and future value are given with opposite signs, and otherwise
that of balances. Of powers it is assumed only that the growth over the term is positive, and one
exactly when nothing grows.
-/

namespace Reckoner

variable {K : Type} [Elementary K] [Field K] [LinearOrder K] [FloorRing K]

namespace Annuity

/-- What is assumed of the growth of one unit over a term. -/
structure Grows (rate n : K) : Prop where
  pos : 0 < compoundFactor rate n
  eq_one_iff : compoundFactor rate n = 1 ↔ rate = 0 ∨ n = 0

/-- One unit paid in each of `n` periods, after the last. -/
def unitAnnuity (rate n : K) : K :=
  if rate = 0 then n else (compoundFactor rate n - 1) / rate

/-- The annuity equation between five amounts, with present value and payment in a sign. -/
def Balances (sign : K) (timing : Timing) (amount : Quantity → K) : Prop :=
  amount .futureValue =
    sign * amount .presentValue * compoundFactor (amount .ratePerPeriod) (amount .numberOfPeriods) +
    sign * amount .payment * unitAnnuity (amount .ratePerPeriod) (amount .numberOfPeriods) *
      timing.factor (amount .ratePerPeriod)

theorem unitAnnuity_eq_zero_iff {rate n : K} (grows : Grows rate n) :
    unitAnnuity rate n = 0 ↔ n = 0 := by
  unfold unitAnnuity
  split
  · exact Iff.rfl
  · rename_i hrate
    rw [div_eq_zero_iff, sub_eq_zero, grows.eq_one_iff]
    simp [hrate]

variable [IsStrictOrderedRing K]

theorem isZeroRate_iff {rate : K} (hrate : rate = 0 ∨ 1e-12 ≤ |rate|) :
    isZeroRate rate = true ↔ rate = 0 := by
  have habs : isZeroRate rate = true ↔ |rate| < 1e-12 := decide_eq_true_iff
  rw [habs]
  constructor
  · intro hsmall
    exact hrate.resolve_right (not_le.mpr hsmall)
  · rintro rfl
    rw [abs_zero]
    norm_num

theorem annuityFactor_eq_unitAnnuity {rate : K} (hrate : rate = 0 ∨ 1e-12 ≤ |rate|) (n : K) :
    annuityFactor rate n = unitAnnuity rate n := by
  simp only [annuityFactor, unitAnnuity, isZeroRate_iff hrate]

theorem factor_pos {rate : K} (hrate : -1 < rate) (timing : Timing) : 0 < timing.factor rate := by
  cases timing with
  | ordinary => exact one_pos
  | due => exact neg_lt_iff_pos_add'.mp hrate

theorem futureValue_eq {rate : K} (hrate : rate = 0 ∨ 1e-12 ≤ |rate|) (pv pmt n : K)
    (timing : Timing) :
    futureValue pv pmt rate n timing =
      pv * compoundFactor rate n + pmt * unitAnnuity rate n * timing.factor rate := by
  rw [futureValue, annuityFactor_eq_unitAnnuity hrate]

theorem presentValue_mul_compoundFactor {rate n : K} (hrate : rate = 0 ∨ 1e-12 ≤ |rate|)
    (grows : Grows rate n) (fv pmt : K) (timing : Timing) :
    presentValue fv pmt rate n timing * compoundFactor rate n =
      fv - pmt * unitAnnuity rate n * timing.factor rate := by
  rw [presentValue, annuityFactor_eq_unitAnnuity hrate, div_mul_cancel₀ _ grows.pos.ne']

theorem payment_of_zero {rate : K} (hrate : rate = 0 ∨ 1e-12 ≤ |rate|) (grows : Grows rate 0)
    (pv fv : K) (timing : Timing) :
    payment pv fv rate 0 timing = (Cause.unsolvable .zeroPeriods).throw := by
  have hunit : unitAnnuity rate 0 * timing.factor rate = 0 := by
    rw [(unitAnnuity_eq_zero_iff grows).mpr rfl, zero_mul]
  unfold payment
  rw [annuityFactor_eq_unitAnnuity hrate, hunit]
  exact if_pos (by simp)

/-- Over some periods a payment of one unit comes to something. -/
theorem exists_payment_eq_ok {rate n : K} (hrate : rate = 0 ∨ 1e-12 ≤ |rate|) (hrate_gt : -1 < rate)
    (grows : Grows rate n) (hn : n ≠ 0) (pv fv : K) (timing : Timing) :
    ∃ pmt, payment pv fv rate n timing = .ok pmt ∧
      pmt * unitAnnuity rate n * timing.factor rate = fv - pv * compoundFactor rate n := by
  have hunit : unitAnnuity rate n * timing.factor rate ≠ 0 :=
    mul_ne_zero ((unitAnnuity_eq_zero_iff grows).not.mpr hn) (factor_pos hrate_gt timing).ne'
  refine ⟨(fv - pv * compoundFactor rate n) / (unitAnnuity rate n * timing.factor rate), ?_, ?_⟩
  · unfold payment
    rw [annuityFactor_eq_unitAnnuity hrate]
    exact if_neg (by simpa using hunit)
  · rw [mul_assoc, div_mul_cancel₀ _ hunit]

end Annuity

/-- One amount is positive and the other negative. -/
def OppositeSigns (x y : K) : Prop := 0 < x ∧ y < 0 ∨ x < 0 ∧ 0 < y

/-- Present and future value are both given, with opposite signs. -/
def Problem.HasSignedFlows (p : Problem K) : Prop :=
  ∃ pv ∈ p.presentValue, ∃ fv ∈ p.futureValue, OppositeSigns pv fv

namespace Solution

/-- What a solution promises of a problem: it keeps what is given, and balances in the sign in which
the problem is read. -/
structure Answers (s : Solution K) (p : Problem K) : Prop where
  solvedFor_eq : s.solvedFor = p.solveFor
  periodsPerYear_eq : s.periodsPerYear = p.periodsPerYear
  given : ∀ q, ∀ value ∈ p.get? q, s.amount q = value
  value_eq : s.value = s.amount p.solveFor
  balances : ∃ sign : K, (sign = 1 ∨ sign = -1) ∧ (sign = -1 ↔ p.HasSignedFlows) ∧
    Annuity.Balances sign p.timing s.amount

end Solution

namespace SolverConfig

open Annuity

variable {p : Problem K}

theorem solve_eq_of_valid (config : SolverConfig K) (valid : p.Valid) :
    config.solve p = (config.missing p.timing (balanced p) p.solveFor).map fun value =>
      reported p (Function.update (balanced p) p.solveFor value) := by
  rw [solve_eq, Problem.validate_eq_ok_iff.mpr valid]
  rfl

variable [IsStrictOrderedRing K]

theorem flowSign_cases (p : Problem K) :
    flowSign p = -1 ∧ p.HasSignedFlows ∨ flowSign p = 1 ∧ ¬ p.HasSignedFlows := by
  unfold flowSign Problem.HasSignedFlows
  cases p.presentValue with
  | none => exact .inr ⟨rfl, nofun⟩
  | some pv =>
    cases p.futureValue with
    | none => exact .inr ⟨rfl, nofun⟩
    | some fv =>
      by_cases hopposite : pv * fv < 0
      · exact .inl ⟨if_pos hopposite, pv, rfl, fv, rfl, mul_neg_iff.mp hopposite⟩
      · refine .inr ⟨if_neg hopposite, ?_⟩
        rintro ⟨_, ⟨⟩, _, ⟨⟩, h⟩
        exact hopposite (mul_neg_iff.mpr h)

theorem flowSign_mul_self (p : Problem K) : flowSign p * flowSign p = 1 := by
  rcases flowSign_cases p with ⟨h, -⟩ | ⟨h, -⟩ <;> rw [h] <;> norm_num

theorem turn_turn (p : Problem K) (q : Quantity) (x : K) : turn p q (turn p q x) = x := by
  cases q with
  | presentValue =>
    show x * flowSign p * flowSign p = x
    rw [mul_assoc, flowSign_mul_self, mul_one]
  | payment =>
    show x * flowSign p * flowSign p = x
    rw [mul_assoc, flowSign_mul_self, mul_one]
  | futureValue => rfl
  | ratePerPeriod => rfl
  | numberOfPeriods => rfl

theorem balances_turn {b : Quantity → K} (h : Balances 1 p.timing b) :
    Balances (flowSign p) p.timing fun q => turn p q (b q) := by
  have hsign := flowSign_mul_self p
  unfold Balances at h ⊢
  show b .futureValue = flowSign p * (b .presentValue * flowSign p) *
      compoundFactor (b .ratePerPeriod) (b .numberOfPeriods) +
    flowSign p * (b .payment * flowSign p) * unitAnnuity (b .ratePerPeriod) (b .numberOfPeriods) *
      p.timing.factor (b .ratePerPeriod)
  -- Present value and payment each meet the sign twice.
  linear_combination h - (b .presentValue * compoundFactor (b .ratePerPeriod) (b .numberOfPeriods) +
    b .payment * unitAnnuity (b .ratePerPeriod) (b .numberOfPeriods) *
      p.timing.factor (b .ratePerPeriod)) * hsign

/-- A value that balances with what is given makes a solution. -/
theorem solve_answers (config : SolverConfig K) (valid : p.Valid) {value : K}
    (h : config.missing p.timing (balanced p) p.solveFor = .ok value)
    (hbalance : Balances 1 p.timing (Function.update (balanced p) p.solveFor value)) :
    ∃ s, config.solve p = .ok s ∧ s.Answers p := by
  refine ⟨reported p (Function.update (balanced p) p.solveFor value), ?_, rfl, rfl, ?_, ?_, ?_⟩
  · rw [solve_eq_of_valid config valid, h]
    rfl
  · intro q x hx
    have hq : q ≠ p.solveFor := by
      rintro rfl
      rw [valid.unknown] at hx
      cases hx
    rw [amount_reported, Function.update_of_ne hq, balanced, hx]
    exact turn_turn p q x
  · rw [amount_reported]
    rfl
  · have hamount := funext (amount_reported p (Function.update (balanced p) p.solveFor value))
    rw [hamount]
    rcases flowSign_cases p with ⟨hsign, hflows⟩ | ⟨hsign, hflows⟩
    · exact ⟨flowSign p, .inr hsign, ⟨fun _ => hflows, fun _ => hsign⟩, balances_turn hbalance⟩
    · refine ⟨flowSign p, .inl hsign, ⟨fun hminus => ?_, fun h => absurd h hflows⟩,
        balances_turn hbalance⟩
      rw [hsign] at hminus
      norm_num at hminus

/-- Each amount can be found from the other quantities, the payment only over some periods. -/
theorem exists_missing_eq_ok (config : SolverConfig K) (timing : Timing) {b : Quantity → K}
    {unknown : Quantity} (hunknown : unknown ∈ Quantity.amounts)
    (hrate : b .ratePerPeriod = 0 ∨ 1e-12 ≤ |b .ratePerPeriod|) (hrate_gt : -1 < b .ratePerPeriod)
    (grows : Grows (b .ratePerPeriod) (b .numberOfPeriods))
    (hn : unknown = .payment → b .numberOfPeriods ≠ 0) :
    ∃ value, config.missing timing b unknown = .ok value ∧
      Balances 1 timing (Function.update b unknown value) := by
  cases unknown with
  | futureValue =>
    refine ⟨_, rfl, ?_⟩
    show futureValue _ _ _ _ _ = 1 * b .presentValue * _ + 1 * b .payment * _ * _
    rw [futureValue_eq hrate, one_mul, one_mul]
    rfl
  | presentValue =>
    refine ⟨_, rfl, ?_⟩
    have hvalue := presentValue_mul_compoundFactor hrate grows (b .futureValue) (b .payment) timing
    show b .futureValue = 1 * presentValue _ _ _ _ _ * compoundFactor (b .ratePerPeriod)
      (b .numberOfPeriods) + 1 * b .payment * unitAnnuity (b .ratePerPeriod) (b .numberOfPeriods) *
        timing.factor (b .ratePerPeriod)
    linear_combination -hvalue
  | payment =>
    obtain ⟨pmt, hpmt, hvalue⟩ := exists_payment_eq_ok hrate hrate_gt grows (hn rfl)
      (b .presentValue) (b .futureValue) timing
    refine ⟨pmt, hpmt, ?_⟩
    show b .futureValue = 1 * b .presentValue * compoundFactor (b .ratePerPeriod)
      (b .numberOfPeriods) + 1 * pmt * unitAnnuity (b .ratePerPeriod) (b .numberOfPeriods) *
        timing.factor (b .ratePerPeriod)
    linear_combination -hvalue
  | ratePerPeriod => exact absurd hunknown (by decide)
  | numberOfPeriods => exact absurd hunknown (by decide)

theorem solve_payment_of_zero (config : SolverConfig K) (valid : p.Valid)
    (hunknown : p.solveFor = .payment) (hn : p.numberOfPeriods = some 0)
    (hrate : ∀ rate ∈ p.ratePerPeriod, rate = 0 ∨ 1e-12 ≤ |rate|)
    (hgrows : ∀ rate ∈ p.ratePerPeriod, Grows rate 0) :
    config.solve p = (Cause.unsolvable .zeroPeriods).throw := by
  obtain ⟨rate, -, hr, -⟩ := valid.exists_rate_and_term (hunknown ▸ by decide)
  rw [solve_eq_of_valid config valid, hunknown]
  show Except.map _ (payment _ _ (balanced p .ratePerPeriod) (balanced p .numberOfPeriods) _) = _
  rw [balanced_ratePerPeriod hr, balanced_numberOfPeriods hn,
    payment_of_zero (hrate rate hr) (hgrows rate hr)]
  rfl

theorem exists_solution (config : SolverConfig K) (valid : p.Valid)
    (hunknown : p.solveFor ∈ Quantity.amounts)
    (hsolvable : p.solveFor = .payment → p.numberOfPeriods ≠ some 0)
    (hrate : ∀ rate ∈ p.ratePerPeriod, rate = 0 ∨ 1e-12 ≤ |rate|)
    (hgrows : ∀ rate ∈ p.ratePerPeriod, ∀ n ∈ p.numberOfPeriods, Grows rate n) :
    ∃ s, config.solve p = .ok s ∧ s.Answers p := by
  obtain ⟨rate, n, hr, hn⟩ := valid.exists_rate_and_term hunknown
  -- The rate and the term are the same in the signs of balances.
  have hbrate := balanced_ratePerPeriod hr
  have hbn := balanced_numberOfPeriods hn
  have hnonzero : p.solveFor = .payment → balanced p .numberOfPeriods ≠ 0 := by
    intro hpayment hzero
    exact hsolvable hpayment (hn.trans (congrArg some (hbn.symm.trans hzero)))
  obtain ⟨value, hvalue, hbalance⟩ := exists_missing_eq_ok config p.timing hunknown
    (hbrate ▸ hrate rate hr) (hbrate ▸ valid.rate_gt rate hr) (hbrate ▸ hbn ▸ hgrows rate hr n hn)
    hnonzero
  exact solve_answers config valid hvalue hbalance

/-- A problem about an amount has a solution, unless a payment is sought that falls in no period. The
solution keeps what is given and satisfies the equation. -/
theorem solve_amount (config : SolverConfig K) (p : Problem K) (hvalid : p.validate = .ok ())
    (hunknown : p.solveFor ∈ Quantity.amounts)
    (hrate : ∀ rate ∈ p.ratePerPeriod, rate = 0 ∨ 1e-12 ≤ |rate|)
    (hgrows : ∀ rate ∈ p.ratePerPeriod, ∀ n ∈ p.numberOfPeriods, Grows rate n) :
    (p.solveFor = .payment ∧ p.numberOfPeriods = some 0 →
      config.solve p = (Cause.unsolvable .zeroPeriods).throw) ∧
    (¬ (p.solveFor = .payment ∧ p.numberOfPeriods = some 0) →
      ∃ s, config.solve p = .ok s ∧ s.Answers p) := by
  have valid := Problem.validate_eq_ok_iff.mp hvalid
  constructor
  · rintro ⟨hpayment, hn⟩
    exact solve_payment_of_zero config valid hpayment hn hrate fun rate hr => hgrows rate hr 0 hn
  · intro hsolvable
    exact exists_solution config valid hunknown (fun hpayment hn => hsolvable ⟨hpayment, hn⟩) hrate
      hgrows

/-- A thousand paid in and two thousand drawn two periods later, with a payment at the beginning of
each. -/
def signedSaving : Problem ℚ :=
  { Problem.solvingFor .payment with
    presentValue := some (-1000), futureValue := some 2000, ratePerPeriod := some (1 / 10),
    numberOfPeriods := some 2, timing := .due }

theorem solve_amount_signedSaving :
    signedSaving.validate = .ok () ∧ signedSaving.HasSignedFlows ∧
      Grows (1 / 10 : ℚ) 2 ∧ ∃ s, standard.solve signedSaving = .ok s ∧ s.Answers signedSaving := by
  have hvalid : signedSaving.validate = .ok () := by
    rw [Problem.validate_eq_ok_iff, Problem.valid_iff]
    decide +kernel
  have hflows : signedSaving.HasSignedFlows :=
    ⟨-1000, rfl, 2000, rfl, .inr ⟨by norm_num, by norm_num⟩⟩
  have hgrows : Grows (1 / 10 : ℚ) 2 := ⟨by decide +kernel, by decide +kernel⟩
  refine ⟨hvalid, hflows, hgrows, (solve_amount standard signedSaving hvalid ?_ ?_ ?_).2 nofun⟩
  · decide
  · rintro _ ⟨⟩
    norm_num [abs_of_pos]
  · rintro _ ⟨⟩ _ ⟨⟩
    exact hgrows

end SolverConfig

end Reckoner
