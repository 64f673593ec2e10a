import Mathlib.Algebra.Order.BigOperators.Group.List
import Mathlib.Algebra.Order.Group.MinMax
import Reckoner.Proofs.Finance.Ledger

/-!
# What an extra payment saves

The balance after a payment grows with the balance before it and falls with the payment, whether or
not the payment covers the interest. So of two runs of one loan the one that pays more owes no more
in any period and ends no later. Its interest is no larger either: the other run pays interest on no
smaller balances, and on balances that are not negative once the first has ended.
-/

namespace Reckoner

variable {K : Type} [Field K] [LinearOrder K]

/-- Rows from a period on that owe no more and pay no more interest, period by period, than others.
They may end first; what the others pay after that is not negative. -/
inductive StaysBelow : Nat → List (ScheduleRow K) → List (ScheduleRow K) → Prop where
  | ended {period : Nat} {others : List (ScheduleRow K)}
      (later : ∀ other ∈ others, period ≤ other.period ∧ 0 ≤ other.interest) :
      StaysBelow period [] others
  | both {row other : ScheduleRow K} {rest others : List (ScheduleRow K)}
      (period_eq : other.period = row.period) (balance_le : row.balance ≤ other.balance)
      (interest_le : row.interest ≤ other.interest)
      (tail : StaysBelow (row.period + 1) rest others) :
      StaysBelow row.period (row :: rest) (other :: others)

/-- A schedule that is nowhere worse than another: no more rows, in no period a larger balance, and
no more interest in all. -/
structure Schedule.NoDearer (s other : Schedule K) : Prop where
  length_le : s.rows.length ≤ other.rows.length
  balance_le : ∀ row ∈ s.rows, ∀ otherRow ∈ other.rows, row.period = otherRow.period →
    row.balance ≤ otherRow.balance
  totalInterest_le : s.totalInterest ≤ other.totalInterest

/-- The savings stated are the differences from a baseline, and neither is negative. -/
structure Schedule.SavesAgainst (s baseline : Schedule K) : Prop where
  length_le : s.rows.length ≤ baseline.rows.length
  termsSaved_eq : (s.termsSaved : ℤ) = baseline.rows.length - s.rows.length
  interestSaved_eq : s.interestSaved = baseline.totalInterest - s.totalInterest
  interestSaved_nonneg : 0 ≤ s.interestSaved

namespace StaysBelow

variable {period : Nat} {rows others : List (ScheduleRow K)}

theorem le_period (below : StaysBelow period rows others) :
    (∀ row ∈ rows, period ≤ row.period) ∧ ∀ other ∈ others, period ≤ other.period := by
  induction below with
  | ended later => exact ⟨nofun, fun other hother => (later other hother).1⟩
  | both period_eq _ _ _ ih =>
    constructor
    · intro row hrow
      rcases List.mem_cons.mp hrow with rfl | hrow
      · exact Nat.le_refl _
      · exact (Nat.le_succ _).trans (ih.1 row hrow)
    · intro other hother
      rcases List.mem_cons.mp hother with rfl | hother
      · exact period_eq.ge
      · exact (Nat.le_succ _).trans (ih.2 other hother)

theorem length_le (below : StaysBelow period rows others) : rows.length ≤ others.length := by
  induction below with
  | ended => exact Nat.zero_le _
  | both _ _ _ _ ih => exact Nat.succ_le_succ ih

/-- Rows of one period stand at one place of both lists, since later rows have later periods. -/
theorem balance_le (below : StaysBelow period rows others) :
    ∀ row ∈ rows, ∀ other ∈ others, row.period = other.period → row.balance ≤ other.balance := by
  induction below with
  | ended => exact nofun
  | both period_eq balance_le _ tail ih =>
    intro row hrow other hother hperiod
    rcases List.mem_cons.mp hrow with rfl | hrow <;> rcases List.mem_cons.mp hother with rfl | hother
    · exact balance_le
    · have hlater := tail.le_period.2 other hother
      omega
    · have hlater := tail.le_period.1 row hrow
      omega
    · exact ih row hrow other hother hperiod

theorem sum_interest_le [IsStrictOrderedRing K] (below : StaysBelow period rows others) :
    (rows.map ScheduleRow.interest).sum ≤ (others.map ScheduleRow.interest).sum := by
  induction below with
  | ended later =>
    apply List.sum_nonneg
    intro interest hinterest
    obtain ⟨other, hother, rfl⟩ := List.mem_map.mp hinterest
    exact (later other hother).2
  | both _ _ interest_le _ ih =>
    simp only [List.map_cons, List.sum_cons]
    exact add_le_add interest_le ih

end StaysBelow

variable [Elementary K] [FloorRing K]

theorem Loan.Valid.withExtraPayment {loan : Loan K} (valid : loan.Valid) {extra : K}
    (hextra : 0 ≤ extra) : Loan.Valid { loan with extraPayment := extra } :=
  ⟨valid.principal_pos, valid.term_pos, valid.periods_le, valid.annualRate_nonneg,
    valid.downPayment_nonneg, valid.downPayment_lt, hextra, valid.scheduledPayment_pos⟩

namespace ScheduleConfig

open Scalar

variable [IsStrictOrderedRing K]

/-- The balance grows by the interest and loses the payment, but never falls below zero. -/
theorem rowFor_balance_eq (rate payment before : K) (period : Nat) :
    (rowFor rate payment period before).balance = max (before * (1 + rate) - payment) 0 := by
  show before - min (payment - before * rate) before = _
  rw [← max_sub_sub_left, sub_self, sub_sub_eq_add_sub, mul_one_add]

theorem rowFor_balance_nonneg (rate payment before : K) (period : Nat) :
    0 ≤ (rowFor rate payment period before).balance := by
  rw [rowFor_balance_eq]
  exact le_max_right _ _

theorem rowFor_balance_le {rate payment payment' before before' : K} (hrate : 0 ≤ rate)
    (hbefore : before' ≤ before) (hpayment : payment ≤ payment') (period : Nat) :
    (rowFor rate payment' period before').balance ≤ (rowFor rate payment period before).balance := by
  rw [rowFor_balance_eq, rowFor_balance_eq]
  have hgrown : before' * (1 + rate) ≤ before * (1 + rate) :=
    mul_le_mul_of_nonneg_right hbefore (by linarith)
  exact max_le_max_right 0 (sub_le_sub hgrown hpayment)

/-- No balance is negative, so neither is the interest on it. -/
theorem period_le_and_interest_nonneg (config : ScheduleConfig K) {rate : K} (hrate : 0 ≤ rate)
    (payment : K) (remaining period : Nat) {before : K} (hbefore : 0 ≤ before) :
    ∀ row ∈ config.rowsFrom rate payment remaining period before,
      period ≤ row.period ∧ 0 ≤ row.interest := by
  induction remaining generalizing period before with
  | zero => exact nofun
  | succ remaining ih =>
    intro row hrow
    rw [rowsFrom_succ] at hrow
    rcases List.mem_cons.mp hrow with rfl | hrow
    · exact ⟨Nat.le_refl _, mul_nonneg hbefore hrate⟩
    · split at hrow
      · cases hrow
      · have hrest := ih (period + 1) (rowFor_balance_nonneg rate payment before period) row hrow
        exact ⟨(Nat.le_succ period).trans hrest.1, hrest.2⟩

/-- The run that pays more stays below the other. Neither payment has to cover the interest. -/
theorem rowsFrom_staysBelow (config : ScheduleConfig K) {rate payment payment' : K} (hrate : 0 ≤ rate)
    (hpayment : payment ≤ payment') (remaining period : Nat) {before before' : K}
    (hbefore' : 0 ≤ before') (hbefore : before' ≤ before) :
    StaysBelow period (config.rowsFrom rate payment' remaining period before')
      (config.rowsFrom rate payment remaining period before) := by
  induction remaining generalizing period before before' with
  | zero => exact .ended nofun
  | succ remaining ih =>
    have hafter := rowFor_balance_le hrate hbefore hpayment period
    have hafter' := rowFor_balance_nonneg rate payment' before' period
    have hinterest : before' * rate ≤ before * rate := mul_le_mul_of_nonneg_right hbefore hrate
    rw [rowsFrom_succ, rowsFrom_succ]
    show StaysBelow (rowFor rate payment' period before').period _ _
    refine .both rfl hafter hinterest ?_
    -- If only one run ends here, it is the one with the smaller balances.
    by_cases hends' : (rowFor rate payment' period before').balance ≤ config.epsilon
    · rw [if_pos hends']
      refine .ended fun other hother => ?_
      split at hother
      · cases hother
      · exact period_le_and_interest_nonneg config hrate payment remaining (period + 1)
          (hafter'.trans hafter) other hother
    · have hgoes : ¬ (rowFor rate payment period before).balance ≤ config.epsilon := fun hends =>
        hends' (hafter.trans hends)
      rw [if_neg hends', if_neg hgoes]
      exact ih (period + 1) hafter' hafter

variable {loan : Loan K}

theorem run_staysBelow (config : ScheduleConfig K) (valid : loan.Valid) {extra extra' : K}
    (hextra : extra ≤ extra') :
    StaysBelow 1 (config.run loan extra').rows (config.run loan extra).rows :=
  rowsFrom_staysBelow config valid.ratePerPeriod_nonneg (add_le_add_right hextra loan.basePayment)
    loan.numberOfPeriods 1 valid.financedAmount_pos.le le_rfl

theorem run_noDearer (config : ScheduleConfig K) (valid : loan.Valid) {extra extra' : K}
    (hextra : extra ≤ extra') :
    (config.run loan extra').NoDearer (config.run loan extra) where
  length_le := (run_staysBelow config valid hextra).length_le
  balance_le := (run_staysBelow config valid hextra).balance_le
  totalInterest_le := by
    have h := (run_staysBelow config valid hextra).sum_interest_le
    rwa [← foldl_add_eq_sum, ← foldl_add_eq_sum] at h

variable {config : ScheduleConfig K} {s : Schedule K}

/-- What a loan can be repaid with, it can be repaid with more of, at no greater cost. -/
theorem schedule_noDearer {extra extra' : K} {t : Schedule K} (hextra : extra ≤ extra')
    (h : config.schedule { loan with extraPayment := extra } = .ok t) :
    ∃ t', config.schedule { loan with extraPayment := extra' } = .ok t' ∧ t'.NoDearer t := by
  obtain ⟨valid, hcovers, -⟩ := schedule_eq_ok_iff.mp h
  have hcovers' : loan.financedAmount * loan.ratePerPeriod < loan.basePayment + extra' :=
    lt_of_lt_of_le hcovers (add_le_add_right hextra loan.basePayment)
  have valid' : Loan.Valid { loan with extraPayment := extra' } :=
    valid.withExtraPayment (valid.extraPayment_nonneg.trans hextra)
  refine ⟨_, schedule_eq_ok_iff.mpr ⟨valid', hcovers', rfl⟩, ?_⟩
  obtain ⟨hrows', -, hinterest', -⟩ :=
    schedule_eq_run (schedule_eq_ok_iff.mpr ⟨valid', hcovers', rfl⟩)
  obtain ⟨hrows, -, hinterest, -⟩ := schedule_eq_run h
  obtain ⟨length_le, balance_le, totalInterest_le⟩ := run_noDearer config valid hextra
  refine ⟨?_, ?_, ?_⟩
  · rw [hrows', hrows]
    exact length_le
  · rw [hrows', hrows]
    exact balance_le
  · rw [hinterest', hinterest]
    exact totalInterest_le

/-- The subtraction of the lengths never stops at zero, whatever the base payment covers. -/
theorem schedule_savesAgainst_run (hextra : 0 < loan.extraPayment)
    (h : config.schedule loan = .ok s) : s.SavesAgainst (config.run loan 0) := by
  obtain ⟨valid, -, hs⟩ := schedule_eq_ok_iff.mp h
  obtain ⟨length_le, -, totalInterest_le⟩ := run_noDearer config valid hextra.le
  rw [if_pos hextra] at hs
  subst hs
  exact ⟨length_le, Nat.cast_sub length_le, rfl, sub_nonneg.mpr totalInterest_le⟩

theorem schedule_savesAgainst_schedule {baseline : Schedule K} (hextra : 0 < loan.extraPayment)
    (h : config.schedule loan = .ok s)
    (hbaseline : config.schedule { loan with extraPayment := 0 } = .ok baseline) :
    s.SavesAgainst baseline := by
  obtain ⟨hrows, -, hinterest, -⟩ := schedule_eq_run hbaseline
  obtain ⟨length_le, termsSaved_eq, interestSaved_eq, interestSaved_nonneg⟩ :=
    schedule_savesAgainst_run hextra h
  refine ⟨?_, ?_, ?_, interestSaved_nonneg⟩
  · rw [hrows]
    exact length_le
  · rw [hrows]
    exact termsSaved_eq
  · rw [hinterest]
    exact interestSaved_eq

/-- Paying more extra keeps a loan repayable and makes its schedule nowhere worse; the savings that a
schedule states are those against the run without extra payments, which need not repay the loan, and
so against the schedule without them where there is one. -/
theorem schedule_extraPayment_mono (config : ScheduleConfig K) (loan : Loan K) :
    (∀ extra extra' t, 0 ≤ extra → extra ≤ extra' →
      config.schedule { loan with extraPayment := extra } = .ok t →
      ∃ t', config.schedule { loan with extraPayment := extra' } = .ok t' ∧ t'.NoDearer t) ∧
    ∀ s, 0 < loan.extraPayment → config.schedule loan = .ok s →
      s.SavesAgainst (config.run loan 0) ∧
      ∀ baseline, config.schedule { loan with extraPayment := 0 } = .ok baseline →
        s.SavesAgainst baseline := by
  constructor
  · intro extra extra' t _ hextra h
    exact schedule_noDearer hextra h
  · intro s hextra h
    refine ⟨schedule_savesAgainst_run hextra h, fun baseline hbaseline => ?_⟩
    exact schedule_savesAgainst_schedule hextra h hbaseline

/-- A thousand at one percent a month, with an agreed payment of half the first interest. -/
def thinLoan : Loan ℚ :=
  { Loan.ofTerms 1000 (12 / 100) 1 with scheduledPayment := some 5, extraPayment := 6 }

theorem schedule_extraPayment_mono_thinLoan :
    (thinLoan.basePayment < thinLoan.financedAmount * thinLoan.ratePerPeriod ∧
      ∃ s s', standard.schedule thinLoan = .ok s ∧
        standard.schedule { thinLoan with extraPayment := 500 } = .ok s' ∧
        s'.NoDearer s ∧ s.SavesAgainst (standard.run thinLoan 0)) ∧
    ∃ s baseline, standard.schedule quarterLoan = .ok s ∧
      standard.schedule { quarterLoan with extraPayment := 0 } = .ok baseline ∧
      s.SavesAgainst baseline := by
  have hthin : (standard.schedule thinLoan).toOption.isSome = true := by decide +kernel
  have hquarter : (standard.schedule quarterLoan).toOption.isSome = true := by decide +kernel
  have hbaseline : (standard.schedule { quarterLoan with extraPayment := 0 }).toOption.isSome = true :=
    by decide +kernel
  obtain ⟨s, hs⟩ := Answer.exists_eq_ok_of_isSome hthin
  obtain ⟨q, hq⟩ := Answer.exists_eq_ok_of_isSome hquarter
  obtain ⟨baseline, hb⟩ := Answer.exists_eq_ok_of_isSome hbaseline
  have hextra : 0 < thinLoan.extraPayment := by decide +kernel
  obtain ⟨s', hs', hle⟩ := (schedule_extraPayment_mono standard thinLoan).1 6 500 s (by decide +kernel)
    (by decide +kernel) hs
  refine ⟨⟨by decide +kernel, s, s', hs, hs', hle, ?_⟩, q, baseline, hq, hb, ?_⟩
  · exact ((schedule_extraPayment_mono standard thinLoan).2 s hextra hs).1
  · exact ((schedule_extraPayment_mono standard quarterLoan).2 q (by decide +kernel) hq).2 baseline hb

end ScheduleConfig

end Reckoner
