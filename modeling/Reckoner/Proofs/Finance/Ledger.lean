import Mathlib.Algebra.BigOperators.Group.List.Basic
import Mathlib.Tactic.Linarith
import Mathlib.Tactic.LinearCombination
import Reckoner.Finance.Schedule
import Reckoner.Proofs.Finance.Loan

/-!
# Schedules are ledgers

In exact arithmetic every row of a schedule pays the interest on the balance before it and takes the
rest of its payment off that balance. What keeps this going is that the balance before a row is
positive and its interest below the payment: then the row lowers the balance, and unless it ends the
schedule both hold of the next one.
-/

namespace Reckoner

variable {K : Type} [Elementary K] [Field K] [LinearOrder K] [FloorRing K]

/-- What a row says of the balance before it. -/
structure ScheduleRow.Pays (rate before : K) (row : ScheduleRow K) : Prop where
  interest_eq : row.interest = before * rate
  interest_nonneg : 0 ≤ row.interest
  principal_pos : 0 < row.principal
  payment_eq : row.payment = row.principal + row.interest
  balance_eq : row.balance = before - row.principal
  balance_nonneg : 0 ≤ row.balance
  balance_lt : row.balance < before

/-- Rows from a period and a balance on. Every row but the last takes the whole payment and leaves
more than `epsilon`; the last takes no more than the payment. -/
inductive Amortizes (epsilon rate payment : K) : Nat → K → List (ScheduleRow K) → Prop where
  | last {row : ScheduleRow K} {before : K} (pays : row.Pays rate before)
      (payment_le : row.payment ≤ payment) : Amortizes epsilon rate payment row.period before [row]
  | more {row : ScheduleRow K} {before : K} {rest : List (ScheduleRow K)}
      (pays : row.Pays rate before) (payment_eq : row.payment = payment)
      (balance_gt : epsilon < row.balance)
      (tail : Amortizes epsilon rate payment (row.period + 1) row.balance rest) :
      Amortizes epsilon rate payment row.period before (row :: rest)

/-- The balance before each row. -/
def balancesBefore (opening : K) : List (ScheduleRow K) → List K
  | [] => []
  | row :: rest => opening :: balancesBefore row.balance rest

namespace ScheduleConfig

open Scalar

/-- The row for one period. -/
def rowFor (rate payment : K) (period : Nat) (before : K) : ScheduleRow K :=
  let interest := before * rate
  let principal := min (payment - interest) before
  ⟨period, principal + interest, principal, interest, before - principal⟩

theorem rowsFrom_succ (config : ScheduleConfig K) (rate payment : K) (remaining period : Nat)
    (before : K) :
    config.rowsFrom rate payment (remaining + 1) period before =
      rowFor rate payment period before ::
        if (rowFor rate payment period before).balance ≤ config.epsilon then []
        else config.rowsFrom rate payment remaining (period + 1)
          (rowFor rate payment period before).balance := by
  simp only [rowsFrom, lesser_ofField, rowFor]
  rfl

theorem length_rowsFrom_le (config : ScheduleConfig K) (rate payment : K) (remaining period : Nat)
    (before : K) : (config.rowsFrom rate payment remaining period before).length ≤ remaining := by
  induction remaining generalizing period before with
  | zero => exact Nat.le_refl 0
  | succ remaining ih =>
    rw [rowsFrom_succ, List.length_cons]
    split
    · exact Nat.succ_le_succ (Nat.zero_le remaining)
    · exact Nat.succ_le_succ (ih _ _)

theorem periods_rowsFrom (config : ScheduleConfig K) (rate payment : K) (remaining period : Nat)
    (before : K) :
    (config.rowsFrom rate payment remaining period before).map ScheduleRow.period =
      List.range' period (config.rowsFrom rate payment remaining period before).length := by
  induction remaining generalizing period before with
  | zero => rfl
  | succ remaining ih =>
    rw [rowsFrom_succ, List.map_cons, List.length_cons, List.range'_succ]
    split
    · rfl
    · rw [ih]
      rfl

/-- The rows of a run are those of the periods one, two and so on. -/
theorem periods_run (config : ScheduleConfig K) (loan : Loan K) (extra : K) :
    (config.run loan extra).rows.map ScheduleRow.period =
      List.range' 1 (config.run loan extra).rows.length :=
  config.periods_rowsFrom _ _ _ _ _

theorem run_rows_ne_nil (config : ScheduleConfig K) (loan : Loan K) (extra : K) :
    (config.run loan extra).rows ≠ [] := by
  obtain ⟨n, hn⟩ := Nat.exists_eq_add_one.mpr loan.numberOfPeriods_pos
  unfold run
  rw [hn, rowsFrom_succ]
  exact List.cons_ne_nil _ _

variable [IsStrictOrderedRing K]

theorem rowFor_pays {rate payment before : K} (hrate : 0 ≤ rate) (hbefore : 0 < before)
    (hcovers : before * rate < payment) (period : Nat) :
    (rowFor rate payment period before).Pays rate before where
  interest_eq := rfl
  interest_nonneg := mul_nonneg hbefore.le hrate
  principal_pos := lt_min (sub_pos.mpr hcovers) hbefore
  payment_eq := rfl
  balance_eq := rfl
  balance_nonneg := sub_nonneg.mpr (min_le_right _ _)
  balance_lt := sub_lt_self before (lt_min (sub_pos.mpr hcovers) hbefore)

theorem rowFor_payment_le (rate payment before : K) (period : Nat) :
    (rowFor rate payment period before).payment ≤ payment := by
  have h := min_le_left (payment - before * rate) before
  show min (payment - before * rate) before + before * rate ≤ payment
  linarith

/-- Only a payment that clears the balance is cut. -/
theorem rowFor_payment_eq {rate payment before : K} {period : Nat}
    (hbalance : 0 < (rowFor rate payment period before).balance) :
    (rowFor rate payment period before).payment = payment := by
  have hlt : min (payment - before * rate) before < before := sub_pos.mp hbalance
  have huncut := (min_lt_iff.mp hlt).resolve_right (lt_irrefl before)
  show min (payment - before * rate) before + before * rate = payment
  rw [min_eq_left huncut.le, sub_add_cancel]

theorem rowsFrom_amortizes {config : ScheduleConfig K} (hepsilon : 0 ≤ config.epsilon)
    {rate payment : K} (hrate : 0 ≤ rate) (remaining period : Nat) {before : K}
    (hbefore : 0 < before) (hcovers : before * rate < payment) :
    Amortizes config.epsilon rate payment period before
      (config.rowsFrom rate payment (remaining + 1) period before) := by
  induction remaining generalizing period before with
  | zero =>
    have hpays := rowFor_pays hrate hbefore hcovers period
    have hle := rowFor_payment_le rate payment before period
    rw [rowsFrom_succ]
    split
    · exact .last hpays hle
    · exact .last hpays hle
  | succ remaining ih =>
    have hpays := rowFor_pays hrate hbefore hcovers period
    rw [rowsFrom_succ]
    split
    · exact .last hpays (rowFor_payment_le rate payment before period)
    · rename_i hgt
      have hgt := not_le.mp hgt
      have hbalance := hepsilon.trans_lt hgt
      -- A smaller balance bears less interest, so the payment covers the next one too.
      have hnext := mul_le_mul_of_nonneg_right hpays.balance_lt.le hrate
      exact .more hpays (rowFor_payment_eq hbalance) hgt
        (ih (period + 1) hbalance (hnext.trans_lt hcovers))

end ScheduleConfig

namespace Amortizes

variable {epsilon rate payment before : K} {period : Nat} {rows : List (ScheduleRow K)}

theorem ne_nil (ledger : Amortizes epsilon rate payment period before rows) : rows ≠ [] := by
  cases ledger <;> exact List.cons_ne_nil _ _

theorem pays (ledger : Amortizes epsilon rate payment period before rows) :
    List.Forall₂ (ScheduleRow.Pays rate) (balancesBefore before rows) rows := by
  induction ledger with
  | last pays => exact .cons pays .nil
  | more pays _ _ _ ih => exact .cons pays ih

theorem full (ledger : Amortizes epsilon rate payment period before rows) :
    ∀ row ∈ rows.dropLast, row.payment = payment ∧ epsilon < row.balance := by
  induction ledger with
  | last => exact nofun
  | more _ payment_eq balance_gt tail ih =>
    rw [List.dropLast_cons_of_ne_nil tail.ne_nil]
    intro row hrow
    rcases List.mem_cons.mp hrow with rfl | hrow
    · exact ⟨payment_eq, balance_gt⟩
    · exact ih row hrow

theorem payment_getLast_le (ledger : Amortizes epsilon rate payment period before rows) :
    ∀ row ∈ rows.getLast?, row.payment ≤ payment := by
  induction ledger with
  | last _ payment_le =>
    rintro row ⟨⟩
    exact payment_le
  | more _ _ _ tail ih =>
    rwa [List.getLast?_cons_of_ne_nil tail.ne_nil]

/-- What the rows take off, and what they leave, is what was owed. -/
theorem sum_principal (ledger : Amortizes epsilon rate payment period before rows) :
    (rows.map ScheduleRow.principal).sum + (rows.getLast?.map ScheduleRow.balance).getD 0
      = before := by
  induction ledger with
  | last pays =>
    have h := pays.balance_eq
    simp only [List.map_cons, List.map_nil, List.sum_cons, List.sum_nil, List.getLast?_singleton,
      Option.map_some, Option.getD_some]
    linear_combination h
  | more pays _ _ tail ih =>
    have h := pays.balance_eq
    rw [List.getLast?_cons_of_ne_nil tail.ne_nil, List.map_cons, List.sum_cons]
    linear_combination h + ih

theorem sum_payment (ledger : Amortizes epsilon rate payment period before rows) :
    (rows.map ScheduleRow.payment).sum =
      (rows.map ScheduleRow.principal).sum + (rows.map ScheduleRow.interest).sum := by
  induction ledger with
  | last pays => simpa using pays.payment_eq
  | more pays _ _ _ ih =>
    have h := pays.payment_eq
    simp only [List.map_cons, List.sum_cons]
    linear_combination h + ih

end Amortizes

/-- What a schedule promises of its rows and totals. -/
structure Schedule.IsLedger (config : ScheduleConfig K) (loan : Loan K) (s : Schedule K) : Prop where
  basePayment_eq : s.basePayment = loan.basePayment
  rows_ne_nil : s.rows ≠ []
  periods : s.rows.map ScheduleRow.period = List.range' 1 s.rows.length
  length_le : s.rows.length ≤ loan.numberOfPeriods
  numberOfPeriods_le : loan.numberOfPeriods ≤ maxPeriods
  /-- From the principal less the down payment on, each row pays its interest and lowers the
  balance. -/
  pays : List.Forall₂ (ScheduleRow.Pays loan.ratePerPeriod)
    (balancesBefore (loan.principal - loan.downPayment) s.rows) s.rows
  payment_eq : ∀ row ∈ s.rows.dropLast, row.payment = s.basePayment + loan.extraPayment
  payment_getLast_le : ∀ row ∈ s.rows.getLast?, row.payment ≤ s.basePayment + loan.extraPayment
  balance_gt : ∀ row ∈ s.rows.dropLast, config.epsilon < row.balance
  sum_principal : (s.rows.map ScheduleRow.principal).sum + s.finalBalance = loan.financedAmount
  totalInterest_eq : s.totalInterest = (s.rows.map ScheduleRow.interest).sum
  totalPayments_eq : s.totalPayments = (s.rows.map ScheduleRow.payment).sum
  totals_differ : s.totalPayments - s.totalInterest = (s.rows.map ScheduleRow.principal).sum

namespace ScheduleConfig

variable {config : ScheduleConfig K} {loan : Loan K} {s : Schedule K}

/-- When there is a schedule, and which one. -/
theorem schedule_eq_ok_iff :
    config.schedule loan = .ok s ↔
      loan.Valid ∧
      loan.financedAmount * loan.ratePerPeriod < loan.basePayment + loan.extraPayment ∧
      s = if 0 < loan.extraPayment then
          { config.run loan loan.extraPayment with
            termsSaved := (config.run loan 0).rows.length
              - (config.run loan loan.extraPayment).rows.length
            interestSaved := (config.run loan 0).totalInterest
              - (config.run loan loan.extraPayment).totalInterest }
        else config.run loan loan.extraPayment := by
  unfold schedule
  rw [Answer.and_then_eq_ok_iff, Loan.validate_eq_ok_iff, and_congr_right_iff]
  intro _
  by_cases hcovers :
      loan.financedAmount * loan.ratePerPeriod < loan.basePayment + loan.extraPayment
  · by_cases hextra : 0 < loan.extraPayment
    · simp only [if_neg (not_le.mpr hcovers), if_pos hextra, hcovers, true_and]
      exact ⟨fun h => (Except.ok.inj h).symm, fun h => congrArg Except.ok h.symm⟩
    · simp only [if_neg (not_le.mpr hcovers), if_neg hextra, hcovers, true_and]
      exact ⟨fun h => (Except.ok.inj h).symm, fun h => congrArg Except.ok h.symm⟩
  · simp only [if_pos (not_lt.mp hcovers)]
    exact ⟨nofun, fun h => absurd h.1 hcovers⟩

/-- Apart from the savings a schedule is the run under the extra payment of the loan. -/
theorem schedule_eq_run (h : config.schedule loan = .ok s) :
    s.rows = (config.run loan loan.extraPayment).rows ∧ s.basePayment = loan.basePayment ∧
      s.totalInterest = (config.run loan loan.extraPayment).totalInterest ∧
      s.totalPayments = (config.run loan loan.extraPayment).totalPayments := by
  obtain ⟨-, -, hs⟩ := schedule_eq_ok_iff.mp h
  rw [hs]
  split <;> exact ⟨rfl, rfl, rfl, rfl⟩

theorem periods_of_schedule (h : config.schedule loan = .ok s) :
    s.rows.map ScheduleRow.period = List.range' 1 s.rows.length := by
  rw [(schedule_eq_run h).1]
  exact config.periods_run loan loan.extraPayment

theorem foldl_add_eq_sum (f : ScheduleRow K → K) (rows : List (ScheduleRow K)) :
    rows.foldl (fun total row => total + f row) 0 = (rows.map f).sum := by
  rw [List.sum_eq_foldl, List.foldl_map]

variable [IsStrictOrderedRing K]

theorem run_amortizes (hepsilon : 0 ≤ config.epsilon) (valid : loan.Valid) {extra : K}
    (hcovers : loan.financedAmount * loan.ratePerPeriod < loan.basePayment + extra) :
    Amortizes config.epsilon loan.ratePerPeriod (loan.basePayment + extra) 1 loan.financedAmount
      (config.run loan extra).rows := by
  obtain ⟨n, hn⟩ := Nat.exists_eq_add_one.mpr loan.numberOfPeriods_pos
  show Amortizes _ _ _ _ _ (config.rowsFrom _ _ loan.numberOfPeriods 1 _)
  rw [hn]
  exact rowsFrom_amortizes hepsilon valid.ratePerPeriod_nonneg n 1 valid.financedAmount_pos hcovers

/-- Every schedule is a ledger. -/
theorem schedule_isLedger (hepsilon : 0 ≤ config.epsilon) (h : config.schedule loan = .ok s) :
    s.IsLedger config loan := by
  obtain ⟨valid, hcovers, -⟩ := schedule_eq_ok_iff.mp h
  obtain ⟨hrows, hbase, hrunInterest, hrunPayments⟩ := schedule_eq_run h
  have ledger := run_amortizes hepsilon valid hcovers
  have hinterest : s.totalInterest = (s.rows.map ScheduleRow.interest).sum := by
    rw [hrunInterest, hrows, ← foldl_add_eq_sum]
    rfl
  have hpayments : s.totalPayments = (s.rows.map ScheduleRow.payment).sum := by
    rw [hrunPayments, hrows, ← foldl_add_eq_sum]
    rfl
  rw [← hrows] at ledger
  have hlength : s.rows.length ≤ loan.numberOfPeriods := by
    rw [hrows]
    exact length_rowsFrom_le _ _ _ _ _ _
  exact
    { basePayment_eq := hbase
      rows_ne_nil := ledger.ne_nil
      periods := periods_of_schedule h
      length_le := hlength
      numberOfPeriods_le := valid.numberOfPeriods_le
      pays := ledger.pays
      payment_eq := fun row hrow => hbase ▸ (ledger.full row hrow).1
      payment_getLast_le := hbase ▸ ledger.payment_getLast_le
      balance_gt := fun row hrow => (ledger.full row hrow).2
      sum_principal := ledger.sum_principal
      totalInterest_eq := hinterest
      totalPayments_eq := hpayments
      totals_differ := by rw [hinterest, hpayments, ledger.sum_payment, add_sub_cancel_right] }

/-- Nine hundred over a quarter at one percent a month, with something extra. -/
def quarterLoan : Loan ℚ :=
  { Loan.ofTerms 1000 (12 / 100) (1 / 4) with downPayment := 100, extraPayment := 50 }

theorem schedule_isLedger_quarterLoan :
    (0 : ℚ) ≤ (standard : ScheduleConfig ℚ).epsilon ∧
      ∃ s, standard.schedule quarterLoan = .ok s ∧ s.IsLedger standard quarterLoan := by
  have hepsilon : (0 : ℚ) ≤ (standard : ScheduleConfig ℚ).epsilon := by decide +kernel
  have hanswers : (standard.schedule quarterLoan).toOption.isSome = true := by decide +kernel
  obtain ⟨s, h⟩ := Answer.exists_eq_ok_of_isSome hanswers
  exact ⟨hepsilon, s, h, schedule_isLedger hepsilon h⟩

end ScheduleConfig

end Reckoner
