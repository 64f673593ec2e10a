import Reckoner.Finance.Solver
import Reckoner.Function

/-!
# Financial functions

The time value of money inside expressions. Signs follow the balance form of the equation, so the
payment on a loan of 250000 is negative. The optional last argument says when payments are made:
zero, or nothing, for the end of each period.
-/

namespace Reckoner.Library

open Scalar Annuity

variable {α : Type} [Scalar α]

def financeCategory : String := "finance"

/-- The timing that the flag at `index` asks for. -/
def timingAt (args : List α) (index : Nat) : Timing :=
  match args[index]? with
  | some flag => .ofFlag flag
  | none => .ordinary

/-- The argument at an index, or zero. -/
def argumentOrZero (args : List α) (index : Nat) : α := args[index]?.getD 0

def fvRule (args : List α) : Answer α α := do
  let rate ← argument args 0
  let nper ← argument args 1
  let pmt ← argument args 2
  let pv ← argument args 3
  checkRate "fv" rate
  return futureValue pv pmt rate nper (timingAt args 4)

def pvRule (args : List α) : Answer α α := do
  let rate ← argument args 0
  let nper ← argument args 1
  let pmt ← argument args 2
  let fv ← argument args 3
  checkRate "pv" rate
  return presentValue fv pmt rate nper (timingAt args 4)

def pmtRule (args : List α) : Answer α α := do
  let rate ← argument args 0
  let nper ← argument args 1
  let pv ← argument args 2
  let fv := argumentOrZero args 3
  checkRate "pmt" rate
  payment pv fv rate nper (timingAt args 4)

def nperRule (args : List α) : Answer α α := do
  let rate ← argument args 0
  let pmt ← argument args 1
  let pv ← argument args 2
  let fv ← argument args 3
  checkRate "nper" rate
  numberOfPeriods pv fv pmt rate (timingAt args 4)

def rateRule (args : List α) : Answer α α := do
  let nper ← argument args 0
  let pmt ← argument args 1
  let pv ← argument args 2
  let fv ← argument args 3
  let problem : Problem α :=
    { Problem.solvingFor .ratePerPeriod with
      numberOfPeriods := some nper
      payment := some pmt
      presentValue := some pv
      futureValue := some fv
      timing := timingAt args 4 }
  let solution ← SolverConfig.standard.solve problem
  return solution.value

/-- Where a loan of `pv` stands before period `per`: the rate, the balance and the level payment, the
last two as positive amounts. -/
def loanPosition (name : String) (args : List α) : Answer α (α × α × α) := do
  let rate ← argument args 0
  let per ← argument args 1
  let nper ← argument args 2
  let pv ← argument args 3
  checkRate name rate
  if fraction per != 0 || per < 1 || nper < per then
    (Cause.outOfDomain (.periodOutsideTerm name nper per)).throw
  else
    let negated ← payment pv 0 rate nper .ordinary
    let level := -negated
    return (rate, futureValue pv (-level) rate (per - 1) .ordinary, level)

/-- The interest in period `per`. -/
def ipmtRule (args : List α) : Answer α α := do
  let (rate, balance, _) ← loanPosition "ipmt" args
  return balance * rate

/-- The principal repaid in period `per`. -/
def ppmtRule (args : List α) : Answer α α := do
  let (rate, balance, level) ← loanPosition "ppmt" args
  return level - balance * rate

/-- A number of compounding periods, cut to a whole number of at least one. -/
def compoundingPeriods (name : String) (periods : α) : Answer α α :=
  if !isFinite periods || periods < 1 then (Cause.outOfDomain (.compounding name periods)).throw
  else .ok (truncate periods)

/-- The effective annual rate of a nominal rate. -/
def effectRule (args : List α) : Answer α α := do
  let rate ← argument args 0
  let given ← argument args 1
  let periods ← compoundingPeriods "effect" given
  return compoundFactor (rate / periods) periods - 1

/-- The nominal annual rate of an effective rate. -/
def nominalRule (args : List α) : Answer α α := do
  let rate ← argument args 0
  let given ← argument args 1
  let periods ← compoundingPeriods "nominal" given
  checkRate "nominal" rate
  return periods * (compoundFactor rate (1 / periods) - 1)

/-- A row for a financial function. -/
def financeFunction (name description usage : String) (arity : Arity)
    (rule : List α → Answer α α) : Function α :=
  ⟨name, description, usage, financeCategory, arity, .operator, rule⟩

def finance : List (Function α) :=
  [financeFunction "fv" "Future value of a present sum plus level payments"
     "fv(rate, nper, pmt, pv, [type])" (.range 4 5) fvRule,
   financeFunction "pv" "Present value of a future sum and level payments"
     "pv(rate, nper, pmt, fv, [type])" (.range 4 5) pvRule,
   financeFunction "pmt" "Level payment that moves pv to fv"
     "pmt(rate, nper, pv, [fv], [type])" (.range 3 5) pmtRule,
   financeFunction "nper" "Number of periods to move pv to fv"
     "nper(rate, pmt, pv, fv, [type])" (.range 4 5) nperRule,
   financeFunction "rate" "Interest rate per period, solved iteratively"
     "rate(nper, pmt, pv, fv, [type])" (.range 4 5) rateRule,
   financeFunction "ipmt" "Interest portion of a loan payment"
     "ipmt(rate, per, nper, pv)" (.exact 4) ipmtRule,
   financeFunction "ppmt" "Principal portion of a loan payment"
     "ppmt(rate, per, nper, pv)" (.exact 4) ppmtRule,
   financeFunction "effect" "Effective annual rate"
     "effect(nominal_rate, periods)" (.exact 2) effectRule,
   financeFunction "nominal" "Nominal annual rate"
     "nominal(effective_rate, periods)" (.exact 2) nominalRule]

end Reckoner.Library
