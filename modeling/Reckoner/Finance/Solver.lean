import Reckoner.Finance.Problem
import Reckoner.Finance.RootSearch

/-!
# Solving for the missing quantity

Closed forms for four of the quantities; Newton's method, with bisection to fall back on, for the
rate.
-/

namespace Reckoner

/-- Tuning of the search for a rate. -/
structure SolverConfig (α : Type) where
  initialGuess : α
  maxIterations : Nat
  /-- The residual accepted, as a fraction of the largest amount in the problem. -/
  tolerance : α
  bisectionFallback : Bool

/-- The five quantities after solving. -/
structure Solution (α : Type) where
  solvedFor : Quantity
  /-- The solved quantity, which also stands in its own field. -/
  value : α
  presentValue : α
  futureValue : α
  payment : α
  ratePerPeriod : α
  numberOfPeriods : α
  periodsPerYear : α

namespace Solution

variable {α : Type} [Scalar α]

/-- The nominal annual rate in percent. -/
def annualRatePercent (s : Solution α) : α :=
  s.ratePerPeriod * s.periodsPerYear * ((100 : Nat) : α)

end Solution

namespace SolverConfig

open Scalar Annuity RootSearch

variable {α : Type} [Scalar α]

def standard : SolverConfig α where
  initialGuess := 0.1
  maxIterations := 100
  tolerance := 1e-9
  bisectionFallback := true

/-- The rates scanned for a change of sign when Newton's method fails. -/
def bracketCandidates : List α :=
  [-0.99, -0.9, -0.5, -0.2, -0.1, -0.05, -0.01, 0, 0.001, 0.01, 0.05, 0.1, 0.2, 0.5, 1.0, 2.0, 5.0,
    10.0]

def bisectionSteps : Nat := 200

/-- The largest amount in a problem, and at least one. -/
def amountScale (pv fv pmt : α) : α :=
  greater (greater (greater (abs pv) (abs fv)) (abs pmt)) 1

/-- The rate that Newton's method finds from the initial guess, if it is above `-1`. -/
def rateByNewton? (config : SolverConfig α) (pv fv pmt n : α) (timing : Timing) (tolerance : α) :
    Option α :=
  match newton (residual? pv fv pmt n timing) (residualSlope? pv pmt n timing) tolerance
      config.maxIterations config.initialGuess with
  | some rate => if -1 < rate then some rate else none
  | none => none

/-- The rate that bisection finds in the first bracket among the candidates. -/
def rateByBisection? (pv fv pmt n : α) (timing : Timing) (tolerance : α) : Option α :=
  match bracket? (residual? pv fv pmt n timing) bracketCandidates with
  | some (lo, hi) => bisect (residual? pv fv pmt n timing) lo hi tolerance bisectionSteps
  | none => none

/-- The rate per period at which the residual vanishes, within the tolerance. -/
def solveRate (config : SolverConfig α) (pv fv pmt n : α) (timing : Timing) : Answer α α :=
  if n ≤ 0 then (Cause.unsolvable .rateWithoutPeriods).throw
  else
    let tolerance := config.tolerance * amountScale pv fv pmt
    match config.rateByNewton? pv fv pmt n timing tolerance with
    | some rate => .ok rate
    | none =>
      let fallback :=
        if config.bisectionFallback then rateByBisection? pv fv pmt n timing tolerance else none
      match fallback with
      | some rate => .ok rate
      | none => (Cause.rateNotFound config.maxIterations).throw

/-- Present and future value of opposite signs are read as signed cash flows, money paid out being
negative. -/
def flowSign (p : Problem α) : α :=
  match p.presentValue, p.futureValue with
  | some pv, some fv => if pv * fv < 0 then -1 else 1
  | _, _ => 1

/-- Computes the missing quantity. Signed cash flows are brought into the balance form of the equation
by negating present value and payment, and the answer is given in the signs of the problem. -/
def solve (config : SolverConfig α) (p : Problem α) : Answer α (Solution α) := do
  p.validate
  let sign := flowSign p
  let pv := p.presentValue.getD 0 * sign
  let fv := p.futureValue.getD 0
  let pmt := p.payment.getD 0 * sign
  let rate := p.ratePerPeriod.getD 0
  let n := p.numberOfPeriods.getD 0
  let solution (value pv fv pmt rate n : α) : Solution α :=
    ⟨p.solveFor, value, pv * sign, fv, pmt * sign, rate, n, p.periodsPerYear⟩
  match p.solveFor with
  | .futureValue =>
    let fv := Annuity.futureValue pv pmt rate n p.timing
    return solution fv pv fv pmt rate n
  | .presentValue =>
    let pv := Annuity.presentValue fv pmt rate n p.timing
    return solution (pv * sign) pv fv pmt rate n
  | .payment =>
    let pmt ← Annuity.payment pv fv rate n p.timing
    return solution (pmt * sign) pv fv pmt rate n
  | .numberOfPeriods =>
    let n ← Annuity.numberOfPeriods pv fv pmt rate p.timing
    return solution n pv fv pmt rate n
  | .ratePerPeriod =>
    let rate ← config.solveRate pv fv pmt n p.timing
    return solution rate pv fv pmt rate n

end SolverConfig

end Reckoner
