import Reckoner.Finance.Annuity

/-!
# Problems of the time value of money

Four known quantities and the name of the unknown fifth.
-/

namespace Reckoner

/-- What is given of the five quantities, and which of them is asked for. -/
structure Problem (α : Type) where
  presentValue : Option α
  futureValue : Option α
  payment : Option α
  ratePerPeriod : Option α
  numberOfPeriods : Option α
  solveFor : Quantity
  timing : Timing
  /-- Used to state a solved rate per year. -/
  periodsPerYear : α

namespace Problem

open Scalar Annuity

variable {α : Type} [Scalar α]

/-- Nothing given yet. -/
def solvingFor (unknown : Quantity) : Problem α where
  presentValue := none
  futureValue := none
  payment := none
  ratePerPeriod := none
  numberOfPeriods := none
  solveFor := unknown
  timing := .ordinary
  periodsPerYear := 1

def get? (p : Problem α) : Quantity → Option α
  | .presentValue => p.presentValue
  | .futureValue => p.futureValue
  | .payment => p.payment
  | .ratePerPeriod => p.ratePerPeriod
  | .numberOfPeriods => p.numberOfPeriods

/-- The problem with one more quantity given. -/
def give (p : Problem α) (q : Quantity) (value : α) : Problem α :=
  match q with
  | .presentValue => { p with presentValue := some value }
  | .futureValue => { p with futureValue := some value }
  | .payment => { p with payment := some value }
  | .ratePerPeriod => { p with ratePerPeriod := some value }
  | .numberOfPeriods => { p with numberOfPeriods := some value }

def withFrequency (p : Problem α) (frequency : Frequency) : Problem α :=
  { p with periodsPerYear := (frequency.periodsPerYear : α) }

/-- A nominal annual rate, spread over the periods of the year. -/
def giveAnnualRate (p : Problem α) (annualRate : α) (frequency : Frequency) : Problem α :=
  (p.withFrequency frequency).give .ratePerPeriod (annualRate / (frequency.periodsPerYear : α))

/-- A term in years, counted in periods. -/
def giveTermYears (p : Problem α) (years : α) (frequency : Frequency) : Problem α :=
  (p.withFrequency frequency).give .numberOfPeriods (years * (frequency.periodsPerYear : α))

/-- How many of the quantities are given. -/
def givenCount (p : Problem α) : Nat := (Quantity.all.filter fun q => (p.get? q).isSome).length

/-- Every given quantity is finite. The first that is not is reported. -/
def checkGiven (p : Problem α) : List Quantity → Answer α Unit
  | [] => .ok ()
  | q :: rest =>
    match p.get? q with
    | none => p.checkGiven rest
    | some value =>
      match checkFinite q.name value with
      | .error failure => .error failure
      | .ok () => p.checkGiven rest

/-- Exactly four finite quantities are given, the unknown is the missing one, a given rate is above
`-1`, and a year has a positive number of periods. -/
def validate (p : Problem α) : Answer α Unit := do
  if p.givenCount != 4 then (Cause.invalidInput (.givenCount p.givenCount)).throw
  if (p.get? p.solveFor).isSome then (Cause.invalidInput (.unknownGiven p.solveFor)).throw
  p.checkGiven Quantity.all
  match p.ratePerPeriod with
  | some rate => checkRate "tvm" rate
  | none => pure ()
  if isFinite p.periodsPerYear && 0 < p.periodsPerYear then pure ()
  else (Cause.invalidInput .periodsPerYear).throw

end Problem

end Reckoner
