import Reckoner.Finance.Schedule
import Reckoner.Finance.Solver
import Reckoner.Json.Record
import Reckoner.Scalar.Double

/-!
# Stored problems, loans and their answers
-/

namespace Reckoner

open Json

namespace Frequency

def toJson (f : Frequency) : Json := .str f.name

def ofJson? (j : Json) : Option Frequency := enum? all name j

end Frequency

namespace Quantity

def tag : Quantity → String
  | presentValue => "present_value"
  | futureValue => "future_value"
  | payment => "payment"
  | ratePerPeriod => "rate_per_period"
  | numberOfPeriods => "number_of_periods"

def toJson (q : Quantity) : Json := .str q.tag

def ofJson? (j : Json) : Option Quantity := enum? all tag j

end Quantity

namespace Timing

def all : List Timing := [ordinary, due]

def toJson (t : Timing) : Json := .str t.name

def ofJson? (j : Json) : Option Timing := enum? all name j

end Timing

namespace Problem

/-- Quantities that are not given are written `null`. -/
def toJson (p : Problem Float) : Json :=
  .obj [("present_value", ofOption .ofFloat p.presentValue),
    ("future_value", ofOption .ofFloat p.futureValue),
    ("payment", ofOption .ofFloat p.payment),
    ("rate_per_period", ofOption .ofFloat p.ratePerPeriod),
    ("number_of_periods", ofOption .ofFloat p.numberOfPeriods),
    ("solve_for", p.solveFor.toJson),
    ("timing", p.timing.toJson),
    ("periods_per_year", .ofFloat p.periodsPerYear)]

def ofJson? (j : Json) : Option (Problem Float) := do
  let r ← record? ["present_value", "future_value", "payment", "rate_per_period",
    "number_of_periods", "solve_for", "timing", "periods_per_year"] j
  let presentValue ← r.nullable "present_value" float?
  let futureValue ← r.nullable "future_value" float?
  let payment ← r.nullable "payment" float?
  let ratePerPeriod ← r.nullable "rate_per_period" float?
  let numberOfPeriods ← r.nullable "number_of_periods" float?
  let solveFor ← r.required "solve_for" Quantity.ofJson?
  let timing ← r.withDefault "timing" Timing.ofJson? .ordinary
  let periodsPerYear ← r.withDefault "periods_per_year" float? 1.0
  return ⟨presentValue, futureValue, payment, ratePerPeriod, numberOfPeriods, solveFor, timing,
    periodsPerYear⟩

end Problem

namespace Solution

def toJson (s : Solution Float) : Json :=
  .obj [("solved_for", s.solvedFor.toJson),
    ("value", .ofFloat s.value),
    ("present_value", .ofFloat s.presentValue),
    ("future_value", .ofFloat s.futureValue),
    ("payment", .ofFloat s.payment),
    ("rate_per_period", .ofFloat s.ratePerPeriod),
    ("number_of_periods", .ofFloat s.numberOfPeriods),
    ("periods_per_year", .ofFloat s.periodsPerYear)]

def ofJson? (j : Json) : Option (Solution Float) := do
  let r ← record? ["solved_for", "value", "present_value", "future_value", "payment",
    "rate_per_period", "number_of_periods", "periods_per_year"] j
  let solvedFor ← r.required "solved_for" Quantity.ofJson?
  let value ← r.required "value" float?
  let presentValue ← r.required "present_value" float?
  let futureValue ← r.required "future_value" float?
  let payment ← r.required "payment" float?
  let ratePerPeriod ← r.required "rate_per_period" float?
  let numberOfPeriods ← r.required "number_of_periods" float?
  let periodsPerYear ← r.required "periods_per_year" float?
  return ⟨solvedFor, value, presentValue, futureValue, payment, ratePerPeriod, numberOfPeriods,
    periodsPerYear⟩

end Solution

namespace SolverConfig

def toJson (c : SolverConfig Float) : Json :=
  .obj [("initial_guess", .ofFloat c.initialGuess),
    ("max_iterations", .ofNat c.maxIterations),
    ("tolerance", .ofFloat c.tolerance),
    ("bisection_fallback", .bool c.bisectionFallback)]

/-- Fields that are missing have their standard values. -/
def ofJson? (j : Json) : Option (SolverConfig Float) := do
  let r ← record? ["initial_guess", "max_iterations", "tolerance", "bisection_fallback"] j
  let c : SolverConfig Float := standard
  let initialGuess ← r.withDefault "initial_guess" float? c.initialGuess
  let maxIterations ← r.withDefault "max_iterations" nat? c.maxIterations
  let tolerance ← r.withDefault "tolerance" float? c.tolerance
  let bisectionFallback ← r.withDefault "bisection_fallback" bool? c.bisectionFallback
  return ⟨initialGuess, maxIterations, tolerance, bisectionFallback⟩

end SolverConfig

namespace Loan

def toJson (loan : Loan Float) : Json :=
  .obj ([("principal", .ofFloat loan.principal),
    ("annual_rate", .ofFloat loan.annualRate),
    ("term_years", .ofFloat loan.termYears),
    ("frequency", loan.frequency.toJson),
    ("down_payment", .ofFloat loan.downPayment),
    ("extra_payment", .ofFloat loan.extraPayment)] ++
    field? "scheduled_payment" .ofFloat loan.scheduledPayment)

def ofJson? (j : Json) : Option (Loan Float) := do
  let r ← record? ["principal", "annual_rate", "term_years", "frequency", "down_payment",
    "extra_payment", "scheduled_payment"] j
  let principal ← r.required "principal" float?
  let annualRate ← r.required "annual_rate" float?
  let termYears ← r.required "term_years" float?
  let frequency ← r.withDefault "frequency" Frequency.ofJson? .standard
  let downPayment ← r.withDefault "down_payment" float? 0.0
  let extraPayment ← r.withDefault "extra_payment" float? 0.0
  let scheduledPayment ← r.omissible "scheduled_payment" float?
  return ⟨principal, annualRate, termYears, frequency, downPayment, extraPayment, scheduledPayment⟩

end Loan

namespace ScheduleRow

def toJson (row : ScheduleRow Float) : Json :=
  .obj [("period_index", .ofNat row.period),
    ("payment_amount", .ofFloat row.payment),
    ("principal_portion", .ofFloat row.principal),
    ("interest_portion", .ofFloat row.interest),
    ("remaining_balance", .ofFloat row.balance)]

def ofJson? (j : Json) : Option (ScheduleRow Float) := do
  let r ← record? ["period_index", "payment_amount", "principal_portion", "interest_portion",
    "remaining_balance"] j
  let period ← r.required "period_index" nat?
  let payment ← r.required "payment_amount" float?
  let principal ← r.required "principal_portion" float?
  let interest ← r.required "interest_portion" float?
  let balance ← r.required "remaining_balance" float?
  return ⟨period, payment, principal, interest, balance⟩

end ScheduleRow

namespace Schedule

def toJson (s : Schedule Float) : Json :=
  .obj [("rows", .arr (s.rows.map ScheduleRow.toJson)),
    ("base_payment", .ofFloat s.basePayment),
    ("total_interest", .ofFloat s.totalInterest),
    ("total_payments", .ofFloat s.totalPayments),
    ("terms_saved_by_extra_payment", .ofNat s.termsSaved),
    ("interest_saved_by_extra_payment", .ofFloat s.interestSaved)]

def ofJson? (j : Json) : Option (Schedule Float) := do
  let r ← record? ["rows", "base_payment", "total_interest", "total_payments",
    "terms_saved_by_extra_payment", "interest_saved_by_extra_payment"] j
  let rows ← r.required "rows" (list? ScheduleRow.ofJson?)
  let basePayment ← r.required "base_payment" float?
  let totalInterest ← r.required "total_interest" float?
  let totalPayments ← r.required "total_payments" float?
  let termsSaved ← r.required "terms_saved_by_extra_payment" nat?
  let interestSaved ← r.required "interest_saved_by_extra_payment" float?
  return ⟨rows, basePayment, totalInterest, totalPayments, termsSaved, interestSaved⟩

end Schedule

namespace ScheduleConfig

def toJson (c : ScheduleConfig Float) : Json := .obj [("epsilon", .ofFloat c.epsilon)]

def ofJson? (j : Json) : Option (ScheduleConfig Float) := do
  let r ← record? ["epsilon"] j
  let c : ScheduleConfig Float := standard
  let epsilon ← r.withDefault "epsilon" float? c.epsilon
  return ⟨epsilon⟩

end ScheduleConfig

end Reckoner
