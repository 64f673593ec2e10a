import Reckoner.Finance.Annuity
import Reckoner.Limits

/-!
# Loans
-/

namespace Reckoner

/-- A loan at a fixed rate. -/
structure Loan (α : Type) where
  principal : α
  /-- The nominal annual rate as a fraction. -/
  annualRate : α
  termYears : α
  frequency : Frequency
  downPayment : α
  /-- Added to every scheduled payment. -/
  extraPayment : α
  /-- Takes the place of the level payment when it is given. -/
  scheduledPayment : Option α

namespace Loan

open Scalar Annuity

variable {α : Type} [Scalar α]

/-- A loan paid monthly, with nothing paid down and nothing extra. -/
def ofTerms (principal annualRate termYears : α) : Loan α where
  principal := principal
  annualRate := annualRate
  termYears := termYears
  frequency := .standard
  downPayment := 0
  extraPayment := 0
  scheduledPayment := none

def financedAmount (loan : Loan α) : α := loan.principal - loan.downPayment

def ratePerPeriod (loan : Loan α) : α :=
  loan.annualRate / (loan.frequency.periodsPerYear : α)

/-- The term in periods, rounded to a whole number. -/
def roundedPeriods (loan : Loan α) : α :=
  round (loan.termYears * (loan.frequency.periodsPerYear : α))

/-- The number of payments scheduled, at least one. -/
def numberOfPeriods (loan : Loan α) : Nat := max (toNat loan.roundedPeriods) 1

/-- The level payment on the financed amount, or the payment agreed. -/
def basePayment (loan : Loan α) : α :=
  match loan.scheduledPayment with
  | some payment => payment
  | none =>
    let financed := loan.financedAmount
    let rate := loan.ratePerPeriod
    let n : α := (loan.numberOfPeriods : Nat)
    if isZeroRate rate then financed / n
    else financed * rate / (1 - compoundFactor rate (-n))

/-- Fails when a fault is present. -/
def refuse (fault : Bool) (why : InvalidInput α) : Answer α Unit :=
  if fault then (Cause.invalidInput why).throw else .ok ()

/-- An agreed payment makes sense. -/
def checkScheduled : Option α → Answer α Unit
  | none => .ok ()
  | some payment => do
    checkFinite "scheduled payment" payment
    refuse (payment ≤ 0) .scheduledPayment

/-- The terms make sense; the first fault in this order is reported. -/
def validate (loan : Loan α) : Answer α Unit := do
  checkFinite "principal" loan.principal
  checkFinite "annual rate" loan.annualRate
  checkFinite "term" loan.termYears
  checkFinite "down payment" loan.downPayment
  checkFinite "extra payment" loan.extraPayment
  refuse (loan.principal ≤ 0) .principal
  refuse (loan.termYears ≤ 0) .term
  refuse (((maxPeriods : Nat) : α) < loan.roundedPeriods)
    (.termTooLong loan.roundedPeriods loan.frequency maxPeriods)
  refuse (loan.annualRate < 0) .annualRate
  refuse (loan.downPayment < 0) .downPayment
  refuse (loan.principal ≤ loan.downPayment) .downPaymentTooLarge
  refuse (loan.extraPayment < 0) .extraPayment
  checkScheduled loan.scheduledPayment

end Loan

end Reckoner
