import Mathlib.Algebra.BigOperators.Intervals
import Reckoner.Proofs.Finance.ExtraPayment
import Reckoner.Proofs.Finance.WholeTerms
import Reckoner.Library.Finance

/-!
# Schedules and the loan functions

The schedule of a loan at its level payment and the functions `pmt`, `ipmt` and `ppmt` say the same.
Both go through the balance that the closed form gives after each period: it obeys the recurrence of
the schedule, is never negative within the term, and is zero at the end of it. So no row is cut.
-/

namespace Reckoner

open Annuity

variable {K : Type} [Elementary K] [Field K] [LinearOrder K] [FloorRing K]

namespace Loan

/-- A valid loan with no payment agreed and a rate that is zero or not next to it. -/
structure IsLevel (loan : Loan K) : Prop where
  valid : loan.Valid
  unscheduled : loan.scheduledPayment = none
  rate_eq_zero_or : loan.ratePerPeriod = 0 ∨ 1e-12 ≤ loan.ratePerPeriod

/-- The balance after `k` level payments, in closed form. -/
def balanceAfter (loan : Loan K) (k : ℕ) : K :=
  futureValue loan.financedAmount (-loan.basePayment) loan.ratePerPeriod k .ordinary

variable [IsStrictOrderedRing K] {loan : Loan K}

namespace IsLevel

theorem rate_gt (level : loan.IsLevel) : -1 < loan.ratePerPeriod :=
  neg_one_lt_zero.trans_le level.valid.ratePerPeriod_nonneg

theorem abs_rate (level : loan.IsLevel) :
    loan.ratePerPeriod = 0 ∨ 1e-12 ≤ |loan.ratePerPeriod| := by
  rw [abs_of_nonneg level.valid.ratePerPeriod_nonneg]
  exact level.rate_eq_zero_or

theorem basePayment_eq (level : loan.IsLevel) :
    loan.basePayment = if loan.ratePerPeriod = 0 then
        loan.financedAmount / (loan.numberOfPeriods : K)
      else loan.financedAmount * loan.ratePerPeriod /
        (1 - compoundFactor loan.ratePerPeriod (-(loan.numberOfPeriods : K))) := by
  simp only [basePayment, level.unscheduled, isZeroRate_iff level.abs_rate]

variable [Elementary.WholePowers K]

theorem basePayment_mul_unitAnnuity (level : loan.IsLevel) :
    loan.basePayment * unitAnnuity loan.ratePerPeriod loan.numberOfPeriods =
      loan.financedAmount * compoundFactor loan.ratePerPeriod loan.numberOfPeriods := by
  have hn : (loan.numberOfPeriods : K) ≠ 0 := Nat.cast_ne_zero.mpr loan.numberOfPeriods_pos.ne'
  have hgrows := grows_natCast level.rate_gt loan.numberOfPeriods
  rw [level.basePayment_eq, compoundFactor_neg_natCast level.rate_gt,
    ← compoundFactor_natCast level.rate_gt]
  unfold unitAnnuity
  split
  · rename_i hzero
    have hgrowth := hgrows.eq_one_iff.mpr (.inl hzero)
    rw [hgrowth, div_mul_cancel₀ _ hn, mul_one]
  · rename_i hrate
    have hpos := hgrows.pos.ne'
    have hgrowth : compoundFactor loan.ratePerPeriod (loan.numberOfPeriods : K) - 1 ≠ 0 :=
      sub_ne_zero.mpr fun h => (hgrows.eq_one_iff.mp h).elim hrate hn
    have hdiscount : 1 - (compoundFactor loan.ratePerPeriod (loan.numberOfPeriods : K))⁻¹ =
        (compoundFactor loan.ratePerPeriod (loan.numberOfPeriods : K) - 1) /
          compoundFactor loan.ratePerPeriod (loan.numberOfPeriods : K) := by
      field_simp
    rw [hdiscount]
    field_simp

theorem unitAnnuity_pos (level : loan.IsLevel) :
    0 < unitAnnuity loan.ratePerPeriod (loan.numberOfPeriods : K) :=
  Annuity.unitAnnuity_pos level.rate_gt loan.numberOfPeriods_pos

theorem interest_lt_basePayment (level : loan.IsLevel) :
    loan.financedAmount * loan.ratePerPeriod < loan.basePayment := by
  have hbase := level.basePayment_mul_unitAnnuity
  have hearned := mul_unitAnnuity level.rate_gt loan.numberOfPeriods
  -- What the first interest leaves of the payment pays the loan off over the term.
  have hrest : (loan.basePayment - loan.financedAmount * loan.ratePerPeriod) *
      unitAnnuity loan.ratePerPeriod (loan.numberOfPeriods : K) = loan.financedAmount := by
    linear_combination hbase - loan.financedAmount * hearned
  have hpos := level.valid.financedAmount_pos
  rw [← hrest, mul_pos_iff_of_pos_right level.unitAnnuity_pos] at hpos
  exact sub_pos.mp hpos

theorem basePayment_pos (level : loan.IsLevel) : 0 < loan.basePayment :=
  (mul_nonneg level.valid.financedAmount_pos.le level.valid.ratePerPeriod_nonneg).trans_lt
    level.interest_lt_basePayment

theorem payment_eq (level : loan.IsLevel) :
    payment loan.financedAmount 0 loan.ratePerPeriod loan.numberOfPeriods .ordinary =
      .ok (-loan.basePayment) := by
  obtain ⟨pmt, hpmt, hvalue⟩ := exists_payment_eq_ok level.abs_rate level.rate_gt
    (grows_natCast level.rate_gt loan.numberOfPeriods)
    (Nat.cast_ne_zero.mpr loan.numberOfPeriods_pos.ne') loan.financedAmount 0 .ordinary
  have hbase := level.basePayment_mul_unitAnnuity
  have hfactor : Timing.ordinary.factor loan.ratePerPeriod = 1 := rfl
  rw [hfactor, mul_one] at hvalue
  have hsame : pmt = -loan.basePayment := by
    apply mul_right_cancel₀ level.unitAnnuity_pos.ne'
    linear_combination hvalue + hbase
  rw [hpmt, hsame]

theorem balanceAfter_zero (level : loan.IsLevel) : loan.balanceAfter 0 = loan.financedAmount := by
  unfold balanceAfter
  rw [Nat.cast_zero, futureValue_zero level.rate_gt level.abs_rate]

theorem balanceAfter_succ (level : loan.IsLevel) (k : ℕ) :
    loan.balanceAfter (k + 1) =
      loan.balanceAfter k * (1 + loan.ratePerPeriod) - loan.basePayment := by
  have hfactor : Timing.ordinary.factor loan.ratePerPeriod = 1 := rfl
  unfold balanceAfter
  rw [futureValue_succ level.rate_gt level.abs_rate, hfactor, mul_one, sub_eq_add_neg]

theorem balanceAfter_numberOfPeriods (level : loan.IsLevel) :
    loan.balanceAfter loan.numberOfPeriods = 0 := by
  have hbase := level.basePayment_mul_unitAnnuity
  have hfactor : Timing.ordinary.factor loan.ratePerPeriod = 1 := rfl
  unfold balanceAfter
  rw [futureValue_eq level.abs_rate, hfactor]
  linear_combination -hbase

theorem balanceAfter_nonneg (level : loan.IsLevel) {k : ℕ} (hk : k ≤ loan.numberOfPeriods) :
    0 ≤ loan.balanceAfter k := by
  -- Back from the end of the term, where the balance is zero.
  induction hk using Nat.decreasingInduction with
  | self => exact level.balanceAfter_numberOfPeriods.ge
  | of_succ k hk ih =>
    have hbase : 0 < 1 + loan.ratePerPeriod := neg_lt_iff_pos_add'.mp level.rate_gt
    have hpayment := level.basePayment_pos
    rw [level.balanceAfter_succ] at ih
    have hproduct : 0 ≤ loan.balanceAfter k * (1 + loan.ratePerPeriod) := by linarith
    exact nonneg_of_mul_nonneg_left hproduct hbase

end IsLevel

end Loan

/-- What the closed form says of a row: its interest and principal come from the balance after the
payments before it. -/
structure ScheduleRow.FollowsFrom (row : ScheduleRow K) (loan : Loan K) (k : ℕ) : Prop where
  period_eq : row.period = k + 1
  before_end : k < loan.numberOfPeriods
  interest_eq : row.interest = loan.balanceAfter k * loan.ratePerPeriod
  principal_eq : row.principal = loan.basePayment - loan.balanceAfter k * loan.ratePerPeriod

namespace ScheduleConfig

variable [IsStrictOrderedRing K] [Elementary.WholePowers K] {loan : Loan K}

/-- Within the term a level payment is not cut: it leaves the balance of the closed form. -/
theorem rowFor_followsFrom (level : loan.IsLevel) {k : ℕ} (hk : k < loan.numberOfPeriods) :
    (rowFor loan.ratePerPeriod loan.basePayment (k + 1) (loan.balanceAfter k)).FollowsFrom loan k ∧
      (rowFor loan.ratePerPeriod loan.basePayment (k + 1) (loan.balanceAfter k)).balance =
        loan.balanceAfter (k + 1) := by
  have hafter := level.balanceAfter_nonneg (Nat.succ_le_of_lt hk)
  rw [level.balanceAfter_succ] at hafter
  have huncut : loan.basePayment - loan.balanceAfter k * loan.ratePerPeriod ≤ loan.balanceAfter k := by
    linarith
  refine ⟨⟨rfl, hk, rfl, min_eq_left huncut⟩, ?_⟩
  rw [rowFor_balance_eq, level.balanceAfter_succ, max_eq_left hafter]

theorem rowsFrom_followFrom (config : ScheduleConfig K) (level : loan.IsLevel) {remaining k : ℕ}
    (hterm : k + remaining ≤ loan.numberOfPeriods) :
    ∀ row ∈ config.rowsFrom loan.ratePerPeriod loan.basePayment remaining (k + 1)
      (loan.balanceAfter k), ∃ j, row.FollowsFrom loan j := by
  -- Over the periods that remain; the balance before each row stays that of the closed form.
  induction remaining generalizing k with
  | zero => exact nofun
  | succ remaining ih =>
    have hk : k < loan.numberOfPeriods := by omega
    obtain ⟨hfollows, hbalance⟩ := rowFor_followsFrom level hk
    intro row hrow
    rw [rowsFrom_succ, hbalance] at hrow
    rcases List.mem_cons.mp hrow with rfl | hrow
    · exact ⟨k, hfollows⟩
    · split at hrow
      · cases hrow
      · exact ih (by omega) row hrow

theorem schedule_eq_run_of_isLevel (config : ScheduleConfig K) (level : loan.IsLevel)
    (hextra : loan.extraPayment = 0) :
    config.schedule loan = .ok (config.run loan 0) := by
  rw [schedule_eq_ok_iff, hextra, add_zero, if_neg (lt_irrefl 0)]
  exact ⟨level.valid, level.interest_lt_basePayment, rfl⟩

theorem run_followsFrom (config : ScheduleConfig K) (level : loan.IsLevel) :
    ∀ row ∈ (config.run loan 0).rows, ∃ j, row.FollowsFrom loan j := by
  intro row hrow
  unfold run at hrow
  rw [add_zero, ← level.balanceAfter_zero] at hrow
  exact config.rowsFrom_followFrom level (Nat.zero_add _).le row hrow

end ScheduleConfig

namespace Library

open Scalar

variable [IsStrictOrderedRing K]

theorem fraction_natCast (k : ℕ) : fraction (k : K) = 0 := by
  have hnonneg : (0 : K) ≤ (k : K) := Nat.cast_nonneg k
  have hfloor : ((⌊(k : K)⌋ : ℤ) : K) = k := by
    rw [Int.floor_natCast, Int.cast_natCast]
  have htruncate : truncate (k : K) = k := by
    unfold truncate
    rw [if_neg hnonneg.not_gt]
    exact hfloor
  unfold fraction
  rw [htruncate, sub_self]

omit [IsStrictOrderedRing K] in
theorem loanPosition_eq (name : String) {rate per n pv pmt : K} (hrate : -1 < rate)
    (hwhole : fraction per = 0) (hfirst : 1 ≤ per) (hlast : per ≤ n)
    (hpmt : payment pv 0 rate n .ordinary = .ok pmt) :
    loanPosition name [rate, per, n, pv] =
      .ok (rate, futureValue pv pmt rate (per - 1) .ordinary, -pmt) := by
  have hperiod : ¬ (fraction per != 0 || per < 1 || n < per) = true := by
    simp [hwhole, hfirst, hlast]
  have hposition : loanPosition name [rate, per, n, pv] =
      checkRate name rate >>= fun _ =>
        if (fraction per != 0 || per < 1 || n < per) = true then
          (Cause.outOfDomain (.periodOutsideTerm name n per)).throw
        else payment pv 0 rate n .ordinary >>= fun pmt =>
          .ok (rate, futureValue pv (-(-pmt)) rate (per - 1) .ordinary, -pmt) := rfl
  rw [hposition, Answer.and_then_eq_ok_iff, if_neg hperiod, Answer.bind_eq_ok_iff]
  refine ⟨checkRate_eq_ok_iff.mpr hrate, pmt, hpmt, ?_⟩
  rw [neg_neg]

variable [Elementary.WholePowers K] {loan : Loan K}

theorem loanPosition_of_isLevel (name : String) (level : loan.IsLevel) {k : ℕ}
    (hk : k < loan.numberOfPeriods) :
    loanPosition name [loan.ratePerPeriod, ((k + 1 : ℕ) : K), (loan.numberOfPeriods : K),
        loan.financedAmount] =
      .ok (loan.ratePerPeriod, loan.balanceAfter k, loan.basePayment) := by
  rw [loanPosition_eq name level.rate_gt (fraction_natCast (k + 1))
    (Nat.one_le_cast.mpr (Nat.succ_pos k)) (Nat.cast_le.mpr hk) level.payment_eq, neg_neg,
    Nat.cast_succ, add_sub_cancel_right]
  rfl

theorem ipmtRule_of_isLevel (level : loan.IsLevel) {k : ℕ} (hk : k < loan.numberOfPeriods) :
    ipmtRule [loan.ratePerPeriod, ((k + 1 : ℕ) : K), (loan.numberOfPeriods : K),
        loan.financedAmount] =
      .ok (loan.balanceAfter k * loan.ratePerPeriod) := by
  unfold ipmtRule
  rw [loanPosition_of_isLevel "ipmt" level hk]
  rfl

theorem ppmtRule_of_isLevel (level : loan.IsLevel) {k : ℕ} (hk : k < loan.numberOfPeriods) :
    ppmtRule [loan.ratePerPeriod, ((k + 1 : ℕ) : K), (loan.numberOfPeriods : K),
        loan.financedAmount] =
      .ok (loan.basePayment - loan.balanceAfter k * loan.ratePerPeriod) := by
  unfold ppmtRule
  rw [loanPosition_of_isLevel "ppmt" level hk]
  rfl

theorem pmtRule_of_isLevel (level : loan.IsLevel) :
    pmtRule [loan.ratePerPeriod, (loan.numberOfPeriods : K), loan.financedAmount] =
      .ok (-loan.basePayment) := by
  have hrule : pmtRule [loan.ratePerPeriod, (loan.numberOfPeriods : K), loan.financedAmount] =
      checkRate "pmt" loan.ratePerPeriod >>= fun _ =>
        payment loan.financedAmount 0 loan.ratePerPeriod loan.numberOfPeriods .ordinary := rfl
  rw [hrule, Answer.and_then_eq_ok_iff]
  exact ⟨checkRate_eq_ok_iff.mpr level.rate_gt, level.payment_eq⟩

theorem sum_principal_of_isLevel (level : loan.IsLevel) :
    ∑ k ∈ Finset.Icc 1 loan.numberOfPeriods,
      (loan.basePayment - loan.balanceAfter (k - 1) * loan.ratePerPeriod) = loan.financedAmount := by
  -- The principal is what the balance falls by, and over the term it falls to zero.
  have hfall (k : ℕ) : loan.basePayment - loan.balanceAfter k * loan.ratePerPeriod =
      loan.balanceAfter k - loan.balanceAfter (k + 1) := by
    rw [level.balanceAfter_succ]
    ring
  rw [← Finset.Ico_add_one_right_eq_Icc, Finset.sum_Ico_eq_sum_range]
  simp only [Nat.add_sub_cancel_left, Nat.add_sub_cancel, hfall]
  rw [Finset.sum_range_sub', level.balanceAfter_zero, level.balanceAfter_numberOfPeriods, sub_zero]

end Library

namespace ScheduleConfig

open Library

variable [IsStrictOrderedRing K] [Elementary.WholePowers K]

/-- The schedule of a loan at its level payment, with nothing extra, has the payment of `pmt`. Its rows
are those of the periods one, two and so on, each with the interest of `ipmt` and the principal of
`ppmt`, which adds up to the financed amount over the term. -/
theorem schedule_agrees (config : ScheduleConfig K) (loan : Loan K) (hvalid : loan.validate = .ok ())
    (hextra : loan.extraPayment = 0) (hscheduled : loan.scheduledPayment = none)
    (hrate : loan.ratePerPeriod = 0 ∨ 1e-12 ≤ loan.ratePerPeriod) :
    ∃ s, config.schedule loan = .ok s ∧
      pmtRule [loan.ratePerPeriod, (loan.numberOfPeriods : K), loan.financedAmount] =
        .ok (-s.basePayment) ∧
      s.rows ≠ [] ∧ s.rows.map ScheduleRow.period = List.range' 1 s.rows.length ∧
      (∀ row ∈ s.rows,
        ipmtRule [loan.ratePerPeriod, (row.period : K), (loan.numberOfPeriods : K),
          loan.financedAmount] = .ok row.interest ∧
        ppmtRule [loan.ratePerPeriod, (row.period : K), (loan.numberOfPeriods : K),
          loan.financedAmount] = .ok row.principal) ∧
      ∃ principal : ℕ → K,
        (∀ k ∈ Finset.Icc 1 loan.numberOfPeriods,
          ppmtRule [loan.ratePerPeriod, (k : K), (loan.numberOfPeriods : K), loan.financedAmount] =
            .ok (principal k)) ∧
        ∑ k ∈ Finset.Icc 1 loan.numberOfPeriods, principal k = loan.financedAmount := by
  have level : loan.IsLevel := ⟨Loan.validate_eq_ok_iff.mp hvalid, hscheduled, hrate⟩
  refine ⟨config.run loan 0, config.schedule_eq_run_of_isLevel level hextra,
    pmtRule_of_isLevel level, config.run_rows_ne_nil loan 0, config.periods_run loan 0, ?_, ?_⟩
  · intro row hrow
    obtain ⟨k, hfollows⟩ := config.run_followsFrom level row hrow
    rw [hfollows.period_eq, hfollows.interest_eq, hfollows.principal_eq]
    exact ⟨ipmtRule_of_isLevel level hfollows.before_end,
      ppmtRule_of_isLevel level hfollows.before_end⟩
  · refine ⟨fun k => loan.basePayment - loan.balanceAfter (k - 1) * loan.ratePerPeriod, ?_, ?_⟩
    · intro k hk
      obtain ⟨hfirst, hlast⟩ := Finset.mem_Icc.mp hk
      obtain ⟨k, rfl⟩ := Nat.exists_eq_add_one.mpr hfirst
      exact ppmtRule_of_isLevel level hlast
    · exact sum_principal_of_isLevel level

/-- A thousand over a quarter at one percent a month. -/
def plainQuarter : Loan ℚ := Loan.ofTerms 1000 (12 / 100) (1 / 4)

theorem schedule_agrees_plainQuarter :
    plainQuarter.validate = .ok () ∧ ∃ s, standard.schedule plainQuarter = .ok s ∧
      pmtRule [1 / 100, 3, 1000] = .ok (-s.basePayment) ∧
      s.rows ≠ [] ∧ s.rows.map ScheduleRow.period = List.range' 1 s.rows.length ∧
      ∀ row ∈ s.rows, ipmtRule [1 / 100, (row.period : ℚ), 3, 1000] = .ok row.interest ∧
        ppmtRule [1 / 100, (row.period : ℚ), 3, 1000] = .ok row.principal := by
  have hvalid : plainQuarter.validate = .ok () := by
    obtain ⟨_, hvalid⟩ := Answer.exists_eq_ok_of_isSome
      (show plainQuarter.validate.toOption.isSome = true by decide +kernel)
    exact hvalid
  have hrate : plainQuarter.ratePerPeriod = 1 / 100 := by decide +kernel
  have hn : (plainQuarter.numberOfPeriods : ℚ) = 3 := by decide +kernel
  have hfinanced : plainQuarter.financedAmount = 1000 := by decide +kernel
  obtain ⟨s, hs, hpmt, hne, hperiods, hrows, -⟩ := schedule_agrees standard plainQuarter hvalid rfl rfl
    (.inr (by rw [hrate]; norm_num))
  rw [hrate, hn, hfinanced] at hpmt hrows
  exact ⟨hvalid, s, hs, hpmt, hne, hperiods, hrows⟩

end ScheduleConfig

end Reckoner
