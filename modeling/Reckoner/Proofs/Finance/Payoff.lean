import Mathlib.Algebra.Ring.GeomSum
import Mathlib.Order.Iterate
import Reckoner.Proofs.Finance.LoanFunctions

/-!
# Paying a loan off

What would be owed if every payment were taken in full, however little of the interest it covers and
however little is owed: a recurrence with a closed form. A schedule follows it up to its last row, which
is cut where the closed form is negative. And one step of the recurrence decides whether a loan is ever
repaid: what does not fall in the first period does not fall below the financed amount in any.
-/

namespace Reckoner

open Annuity

variable {K : Type} [Elementary K] [Field K] [LinearOrder K] [FloorRing K]

/-- One unit paid in each of `k` periods grows for as many periods as are left. -/
theorem Annuity.unitAnnuity_eq_sum [IsStrictOrderedRing K] [Elementary.WholePowers K] {rate : K}
    (hrate : -1 < rate) (k : ℕ) :
    unitAnnuity rate (k : K) = ∑ j ∈ Finset.range k, (1 + rate) ^ j := by
  induction k with
  | zero => rw [Nat.cast_zero, unitAnnuity_zero hrate, Finset.sum_range_zero]
  | succ k ih => rw [unitAnnuity_succ hrate, geom_sum_succ, ih, mul_comm]

namespace Loan

variable (loan : Loan K)

/-- One period in which the payment is taken in full, with no check that it lowers the balance or that
so much is owed. -/
def uncheckedPeriod (balance : K) : K :=
  balance - (loan.basePayment + loan.extraPayment - balance * loan.ratePerPeriod)

/-- What is owed after `k` full payments, in closed form. -/
def uncutBalance (k : ℕ) : K :=
  loan.financedAmount * (1 + loan.ratePerPeriod) ^ k -
    (loan.basePayment + loan.extraPayment) * ∑ j ∈ Finset.range k, (1 + loan.ratePerPeriod) ^ j

/-- Full payments never bring what is owed below the financed amount within the term. -/
def NeverFalls : Prop :=
  ∀ k ∈ Finset.Icc 1 loan.numberOfPeriods,
    loan.financedAmount ≤ loan.uncheckedPeriod^[k] loan.financedAmount

theorem uncutBalance_zero : loan.uncutBalance 0 = loan.financedAmount := by
  rw [uncutBalance, pow_zero, mul_one, Finset.sum_range_zero, mul_zero, sub_zero]

theorem uncutBalance_succ (k : ℕ) : loan.uncutBalance (k + 1) =
    loan.uncutBalance k * (1 + loan.ratePerPeriod) - (loan.basePayment + loan.extraPayment) := by
  rw [uncutBalance, uncutBalance, geom_sum_succ, pow_succ]
  ring

theorem uncheckedPeriod_eq (balance : K) : loan.uncheckedPeriod balance =
    balance * (1 + loan.ratePerPeriod) - (loan.basePayment + loan.extraPayment) := by
  rw [uncheckedPeriod]
  ring

variable {loan} [IsStrictOrderedRing K]

theorem Valid.uncheckedPeriod_monotone (valid : loan.Valid) : Monotone loan.uncheckedPeriod := by
  intro balance balance' hle
  have hbase : 0 ≤ 1 + loan.ratePerPeriod := add_nonneg zero_le_one valid.ratePerPeriod_nonneg
  rw [uncheckedPeriod_eq, uncheckedPeriod_eq]
  exact sub_le_sub_right (mul_le_mul_of_nonneg_right hle hbase) _

/-- The first period decides. -/
theorem Valid.neverFalls_iff (valid : loan.Valid) : loan.NeverFalls ↔
    loan.basePayment + loan.extraPayment ≤ loan.financedAmount * loan.ratePerPeriod := by
  have hfirst : loan.financedAmount ≤ loan.uncheckedPeriod loan.financedAmount ↔
      loan.basePayment + loan.extraPayment ≤ loan.financedAmount * loan.ratePerPeriod := by
    rw [uncheckedPeriod, le_sub_self_iff, sub_nonpos]
  rw [← hfirst]
  constructor
  · intro hnever
    exact hnever 1 (Finset.mem_Icc.mpr ⟨le_rfl, loan.numberOfPeriods_pos⟩)
  · intro hle k _
    exact valid.uncheckedPeriod_monotone.monotone_iterate_of_le_map hle (Nat.zero_le k)

/-- The level payment alone leaves nothing at the end of the term. -/
theorem IsLevel.uncutBalance_numberOfPeriods_nonpos [Elementary.WholePowers K] (level : loan.IsLevel) :
    loan.uncutBalance loan.numberOfPeriods ≤ 0 := by
  have hlevel := level.basePayment_mul_unitAnnuity
  have hextra := mul_nonneg level.valid.extraPayment_nonneg level.unitAnnuity_pos.le
  rw [uncutBalance, ← compoundFactor_natCast level.rate_gt, ← unitAnnuity_eq_sum level.rate_gt]
  linarith

end Loan

/-- Rows from a period on that leave the balance of a closed form, and more than `epsilon`, up to the
last. That one leaves nothing where the closed form is negative, and more than `epsilon` only in the
last period. -/
inductive Tracks (epsilon : K) (closed : ℕ → K) (periods : ℕ) : ℕ → List (ScheduleRow K) → Prop where
  | last {row : ScheduleRow K} (balance_eq : row.balance = max 0 (closed row.period))
      (ends : epsilon < row.balance → row.period = periods) :
      Tracks epsilon closed periods row.period [row]
  | more {row : ScheduleRow K} {rest : List (ScheduleRow K)}
      (balance_eq : row.balance = closed row.period) (balance_gt : epsilon < row.balance)
      (tail : Tracks epsilon closed periods (row.period + 1) rest) :
      Tracks epsilon closed periods row.period (row :: rest)

namespace Tracks

variable {epsilon : K} {closed : ℕ → K} {periods period : ℕ} {rows : List (ScheduleRow K)}

theorem ne_nil (tracks : Tracks epsilon closed periods period rows) : rows ≠ [] := by
  cases tracks <;> exact List.cons_ne_nil _ _

theorem balance_of_mem_dropLast (tracks : Tracks epsilon closed periods period rows) :
    ∀ row ∈ rows.dropLast, row.balance = closed row.period ∧ epsilon < row.balance := by
  induction tracks with
  | last => exact List.forall_mem_nil _
  | more balance_eq balance_gt tail ih =>
    rw [List.dropLast_cons_of_ne_nil tail.ne_nil]
    exact List.forall_mem_cons.mpr ⟨⟨balance_eq, balance_gt⟩, ih⟩

/-- The last row, counted from the first period. -/
theorem exists_getLast (tracks : Tracks epsilon closed periods period rows) :
    ∃ row, rows.getLast? = some row ∧ row.period + 1 = period + rows.length ∧
      row.balance = max 0 (closed row.period) ∧ (epsilon < row.balance → row.period = periods) := by
  induction tracks with
  | last balance_eq ends => exact ⟨_, rfl, rfl, balance_eq, ends⟩
  | more _ _ tail ih =>
    obtain ⟨row, hlast, hperiod, hrow⟩ := ih
    refine ⟨row, ?_, ?_, hrow⟩
    · rw [List.getLast?_cons_of_ne_nil tail.ne_nil, hlast]
    · rw [hperiod, List.length_cons]
      omega

end Tracks

namespace ScheduleConfig

variable [IsStrictOrderedRing K] {config : ScheduleConfig K} {loan : Loan K} {s : Schedule K}

/-- The balance after a row is that of the closed form until it is cut, and then the rows end. -/
theorem rowsFrom_tracks (hepsilon : 0 ≤ config.epsilon) {rate payment : K} {closed : ℕ → K}
    (hclosed : ∀ k, closed (k + 1) = closed k * (1 + rate) - payment) (remaining k : ℕ) :
    Tracks config.epsilon closed (k + remaining + 1) (k + 1)
      (config.rowsFrom rate payment (remaining + 1) (k + 1) (closed k)) := by
  have hbalance (k : ℕ) :
      (rowFor rate payment (k + 1) (closed k)).balance = max 0 (closed (k + 1)) := by
    rw [rowFor_balance_eq, hclosed, max_comm]
  induction remaining generalizing k with
  | zero =>
    rw [rowsFrom_succ]
    split
    · exact .last (hbalance k) fun _ => rfl
    · exact .last (hbalance k) fun _ => rfl
  | succ remaining ih =>
    rw [rowsFrom_succ]
    split
    · rename_i hends
      exact .last (hbalance k) fun hgt => absurd hends hgt.not_ge
    · rename_i hgoes
      have hgt := not_le.mp hgoes
      -- More than nothing is owed, so the closed form is not negative here.
      have huncut : (rowFor rate payment (k + 1) (closed k)).balance = closed (k + 1) := by
        have hpos := hepsilon.trans_lt hgt
        rw [hbalance] at hpos ⊢
        exact max_eq_right ((lt_max_iff.mp hpos).resolve_left (lt_irrefl 0)).le
      refine .more huncut hgt ?_
      rw [huncut, show k + (remaining + 1) + 1 = k + 1 + remaining + 1 by omega]
      exact ih (k + 1)

theorem schedule_tracks (hepsilon : 0 ≤ config.epsilon) (h : config.schedule loan = .ok s) :
    Tracks config.epsilon loan.uncutBalance loan.numberOfPeriods 1 s.rows := by
  obtain ⟨n, hn⟩ := Nat.exists_eq_add_one.mpr loan.numberOfPeriods_pos
  have tracks := rowsFrom_tracks hepsilon loan.uncutBalance_succ n 0
  rw [Nat.zero_add, ← hn, loan.uncutBalance_zero] at tracks
  rw [(schedule_eq_run h).1]
  exact tracks

end ScheduleConfig

/-- What the closed form says of a schedule: its rows have the balances of full payments up to the last,
and it repays the loan within the term when its payment is the level one or more. -/
structure Schedule.PaysOff (config : ScheduleConfig K) (loan : Loan K) (s : Schedule K) : Prop where
  rows_ne_nil : s.rows ≠ []
  basePayment_eq : s.basePayment = loan.basePayment
  periods : s.rows.map ScheduleRow.period = List.range' 1 s.rows.length
  balance_eq : ∀ row ∈ s.rows.dropLast, row.balance = loan.uncutBalance row.period
  balance_gt : ∀ row ∈ s.rows.dropLast, config.epsilon < row.balance
  last_balance_eq : ∀ row ∈ s.rows.getLast?, row.balance = max 0 (loan.uncutBalance row.period)
  length_eq : config.epsilon < s.finalBalance → s.rows.length = loan.numberOfPeriods
  finalBalance_le : loan.scheduledPayment = none →
    (loan.ratePerPeriod = 0 ∨ 1e-12 ≤ loan.ratePerPeriod) → s.finalBalance ≤ config.epsilon

namespace ScheduleConfig

variable [IsStrictOrderedRing K] {config : ScheduleConfig K} {loan : Loan K} {s : Schedule K}

/-- Every schedule follows the closed form of full payments, and pays off within the term a loan with
no payment agreed. -/
theorem schedule_paysOff [Elementary.WholePowers K] (hepsilon : 0 ≤ config.epsilon)
    (h : config.schedule loan = .ok s) : s.PaysOff config loan := by
  have tracks := schedule_tracks hepsilon h
  obtain ⟨row, hlast, hperiod, hbalance, hends⟩ := tracks.exists_getLast
  obtain ⟨valid, -, -⟩ := schedule_eq_ok_iff.mp h
  have hfinal : s.finalBalance = row.balance := by
    rw [Schedule.finalBalance, hlast]
    rfl
  have hlength : config.epsilon < s.finalBalance → s.rows.length = loan.numberOfPeriods := by
    intro hgt
    have hlast := hends (hfinal ▸ hgt)
    omega
  refine
    { rows_ne_nil := tracks.ne_nil
      basePayment_eq := (schedule_eq_run h).2.1
      periods := periods_of_schedule h
      balance_eq := fun row hrow => (tracks.balance_of_mem_dropLast row hrow).1
      balance_gt := fun row hrow => (tracks.balance_of_mem_dropLast row hrow).2
      last_balance_eq := ?_
      length_eq := hlength
      finalBalance_le := fun hscheduled hrate => ?_ }
  · rw [hlast]
    rintro _ ⟨⟩
    exact hbalance
  · -- Above `epsilon` the last row would be that of the last period, where nothing is left.
    by_contra hgt
    have hgt : config.epsilon < row.balance := hfinal ▸ not_le.mp hgt
    have level : loan.IsLevel := ⟨valid, hscheduled, hrate⟩
    have hzero : row.balance = 0 := by
      rw [hbalance, hends hgt, max_eq_left level.uncutBalance_numberOfPeriods_nonpos]
    rw [hzero] at hgt
    exact hgt.not_ge hepsilon

theorem schedule_paysOff_thinLoan :
    (0 : ℚ) ≤ (standard : ScheduleConfig ℚ).epsilon ∧
    (∃ s, standard.schedule thinLoan = .ok s ∧ s.PaysOff standard thinLoan ∧
      standard.epsilon < s.finalBalance ∧ s.rows.length = 12) ∧
    ∃ s, standard.schedule quarterLoan = .ok s ∧ s.finalBalance ≤ standard.epsilon := by
  have hepsilon : (0 : ℚ) ≤ (standard : ScheduleConfig ℚ).epsilon := by decide +kernel
  have hthin : (standard.schedule thinLoan).toOption.map
      (fun s => decide (standard.epsilon < s.finalBalance)) = some true := by decide +kernel
  have hquarter : (standard.schedule quarterLoan).toOption.isSome = true := by decide +kernel
  have hn : thinLoan.numberOfPeriods = 12 := by decide +kernel
  obtain ⟨s, hs, hgt⟩ := Answer.exists_eq_ok_of_map hthin
  obtain ⟨q, hq⟩ := Answer.exists_eq_ok_of_isSome hquarter
  have hgt := of_decide_eq_true hgt
  have paysOff := schedule_paysOff hepsilon hs
  refine ⟨hepsilon, ⟨s, hs, paysOff, hgt, (paysOff.length_eq hgt).trans hn⟩, q, hq, ?_⟩
  exact (schedule_paysOff hepsilon hq).finalBalance_le rfl (.inr (by decide +kernel))

/-! ## Loans that are never repaid -/

omit [IsStrictOrderedRing K] in
/-- The first payment has to be more than the first interest. -/
theorem schedule_of_not_covers (config : ScheduleConfig K) (valid : loan.Valid)
    (h : loan.basePayment + loan.extraPayment ≤ loan.financedAmount * loan.ratePerPeriod) :
    config.schedule loan = (Cause.nonAmortizing (loan.financedAmount * loan.ratePerPeriod)
      (loan.basePayment + loan.extraPayment)).throw := by
  have hvalid := Loan.validate_eq_ok_iff.mpr valid
  unfold schedule
  rw [hvalid]
  exact if_pos h

/-- A schedule is refused as never repaid exactly when full payments never bring what is owed below the
financed amount. Any other valid loan has one, and each of its rows lowers the balance. -/
theorem schedule_nonAmortizing_iff (hepsilon : 0 ≤ config.epsilon) (hvalid : loan.validate = .ok ()) :
    ((∃ interest payment, config.schedule loan = (Cause.nonAmortizing interest payment).throw) ↔
      loan.NeverFalls) ∧
    (¬ loan.NeverFalls → ∃ s, config.schedule loan = .ok s ∧
      List.Forall₂ (fun before row => row.balance < before)
        (balancesBefore loan.financedAmount s.rows) s.rows) := by
  have valid := Loan.validate_eq_ok_iff.mp hvalid
  have hschedule : ¬ loan.NeverFalls → ∃ s, config.schedule loan = .ok s ∧
      List.Forall₂ (fun before row => row.balance < before)
        (balancesBefore loan.financedAmount s.rows) s.rows := by
    intro hfalls
    have hcovers := not_le.mp (valid.neverFalls_iff.not.mp hfalls)
    obtain ⟨s, h⟩ : ∃ s, config.schedule loan = .ok s :=
      ⟨_, schedule_eq_ok_iff.mpr ⟨valid, hcovers, rfl⟩⟩
    refine ⟨s, h, ?_⟩
    rw [(schedule_eq_run h).1]
    exact (run_amortizes hepsilon valid hcovers).pays.imp fun _ _ pays => pays.balance_lt
  refine ⟨⟨?_, fun hnever => ?_⟩, hschedule⟩
  · rintro ⟨interest, payment, hrefused⟩
    by_contra hfalls
    obtain ⟨s, hs, -⟩ := hschedule hfalls
    rw [hrefused] at hs
    cases hs
  · exact ⟨_, _, schedule_of_not_covers config valid (valid.neverFalls_iff.mp hnever)⟩

/-- With one less of extra the payment of `thinLoan` is its first interest. -/
theorem schedule_nonAmortizing_iff_thinLoan :
    (0 : ℚ) ≤ (standard : ScheduleConfig ℚ).epsilon ∧
    { thinLoan with extraPayment := 5 }.validate = .ok () ∧
    (∃ interest payment, standard.schedule { thinLoan with extraPayment := 5 } =
      (Cause.nonAmortizing interest payment).throw) ∧
    thinLoan.validate = .ok () ∧ ∃ s, standard.schedule thinLoan = .ok s ∧
      List.Forall₂ (fun before row => row.balance < before)
        (balancesBefore thinLoan.financedAmount s.rows) s.rows := by
  have hepsilon : (0 : ℚ) ≤ (standard : ScheduleConfig ℚ).epsilon := by decide +kernel
  obtain ⟨_, hvalid⟩ := Answer.exists_eq_ok_of_isSome
    (show { thinLoan with extraPayment := 5 }.validate.toOption.isSome = true by decide +kernel)
  obtain ⟨_, hvalid'⟩ := Answer.exists_eq_ok_of_isSome
    (show thinLoan.validate.toOption.isSome = true by decide +kernel)
  have hnever : { thinLoan with extraPayment := 5 }.NeverFalls := by
    unfold Loan.NeverFalls
    decide +kernel
  have hfalls : ¬ thinLoan.NeverFalls := by
    unfold Loan.NeverFalls
    decide +kernel
  exact ⟨hepsilon, hvalid, (schedule_nonAmortizing_iff hepsilon hvalid).1.mpr hnever, hvalid',
    (schedule_nonAmortizing_iff hepsilon hvalid').2 hfalls⟩

end ScheduleConfig

end Reckoner
