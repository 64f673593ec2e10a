/-!
# The five quantities
-/

namespace Reckoner

/-- The quantities that the time value of money ties together. -/
inductive Quantity where
  | presentValue
  | futureValue
  | payment
  | ratePerPeriod
  | numberOfPeriods
deriving DecidableEq, Repr

namespace Quantity

def all : List Quantity :=
  [presentValue, futureValue, payment, ratePerPeriod, numberOfPeriods]

def name : Quantity → String
  | presentValue => "present value"
  | futureValue => "future value"
  | payment => "payment"
  | ratePerPeriod => "rate per period"
  | numberOfPeriods => "number of periods"

theorem mem_all (q : Quantity) : q ∈ all := by cases q <;> decide

end Quantity

end Reckoner
