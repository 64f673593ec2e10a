import Reckoner.Finance.Loan

/-!
# Amortization schedules

One row per payment until the balance is paid off or the term ends, and what an extra payment saves
against the same loan without it.
-/

namespace Reckoner

/-- One payment of a schedule. -/
structure ScheduleRow (α : Type) where
  /-- Counted from one. -/
  period : Nat
  payment : α
  principal : α
  interest : α
  /-- The balance after the payment. -/
  balance : α

/-- The payments of a loan with their totals. -/
structure Schedule (α : Type) where
  rows : List (ScheduleRow α)
  /-- The scheduled payment before any extra. -/
  basePayment : α
  totalInterest : α
  totalPayments : α
  /-- Payments that the extra payment makes unnecessary. -/
  termsSaved : Nat
  interestSaved : α

namespace Schedule

variable {α : Type} [Scalar α]

/-- The balance after the last payment. -/
def finalBalance (s : Schedule α) : α := (s.rows.getLast?.map ScheduleRow.balance).getD 0

end Schedule

/-- Tuning of schedules. -/
structure ScheduleConfig (α : Type) where
  /-- A balance of at most this counts as paid off. -/
  epsilon : α

namespace ScheduleConfig

open Scalar

variable {α : Type} [Scalar α]

def standard : ScheduleConfig α := ⟨0.01⟩

/-- The rows from period `period` on, for at most `remaining` periods. The last payment is cut to what
is owed. -/
def rowsFrom (config : ScheduleConfig α) (rate payment : α) :
    (remaining period : Nat) → (balance : α) → List (ScheduleRow α)
  | 0, _, _ => []
  | remaining + 1, period, balance =>
    let interest := balance * rate
    let principal := lesser (payment - interest) balance
    let after := balance - principal
    let row : ScheduleRow α := ⟨period, principal + interest, principal, interest, after⟩
    row :: if after ≤ config.epsilon then []
      else config.rowsFrom rate payment remaining (period + 1) after

/-- The schedule of a loan under a given extra payment, with nothing saved. -/
def run (config : ScheduleConfig α) (loan : Loan α) (extra : α) : Schedule α :=
  let rows := config.rowsFrom loan.ratePerPeriod (loan.basePayment + extra) loan.numberOfPeriods 1
    loan.financedAmount
  { rows := rows
    basePayment := loan.basePayment
    totalInterest := rows.foldl (fun total row => total + row.interest) 0
    totalPayments := rows.foldl (fun total row => total + row.payment) 0
    termsSaved := 0
    interestSaved := 0 }

/-- The schedule of a valid loan whose payment covers the first interest. Savings are measured against
the same loan without extra payments. -/
def schedule (config : ScheduleConfig α) (loan : Loan α) : Answer α (Schedule α) := do
  loan.validate
  let payment := loan.basePayment + loan.extraPayment
  let firstInterest := loan.financedAmount * loan.ratePerPeriod
  if payment ≤ firstInterest then (Cause.nonAmortizing firstInterest payment).throw
  else
    let result := config.run loan loan.extraPayment
    if 0 < loan.extraPayment then
      let baseline := config.run loan 0
      return { result with
        termsSaved := baseline.rows.length - result.rows.length
        interestSaved := baseline.totalInterest - result.totalInterest }
    else return result

end ScheduleConfig

end Reckoner
