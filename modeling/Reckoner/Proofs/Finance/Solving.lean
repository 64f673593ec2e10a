import Mathlib.Logic.Function.Basic
import Reckoner.Finance.Solver

/-!
# How a problem is solved

What is given is brought into the signs of balances, the missing quantity is found there, and all five
quantities go back into the signs of the problem. So a solution repeats what is given and adds what was
missing. This needs no law of the numbers, and it holds of doubles: an amount that goes there and back
is multiplied by the sign twice.
-/

namespace Reckoner

variable {α : Type} [Scalar α]

def Solution.amount (s : Solution α) : Quantity → α
  | .presentValue => s.presentValue
  | .futureValue => s.futureValue
  | .payment => s.payment
  | .ratePerPeriod => s.ratePerPeriod
  | .numberOfPeriods => s.numberOfPeriods

namespace SolverConfig

open Annuity

variable {config : SolverConfig α} {p : Problem α} {s : Solution α}

theorem flowSign_eq (p : Problem α) : flowSign p = 1 ∨ flowSign p = -1 := by
  unfold flowSign
  split
  · split
    · exact .inr rfl
    · exact .inl rfl
  · exact .inl rfl

/-- An amount taken from the signs of the problem to those of balances, or back. -/
def turn (p : Problem α) : Quantity → α → α
  | .presentValue, x | .payment, x => x * flowSign p
  | _, x => x

/-- What is given, in the signs of balances, and zero for the unknown. -/
def balanced (p : Problem α) (q : Quantity) : α := turn p q ((p.get? q).getD 0)

/-- The unknown that belongs to amounts in the signs of balances. -/
def missing (config : SolverConfig α) (timing : Timing) (b : Quantity → α) : Quantity → Answer α α
  | .futureValue =>
    .ok (futureValue (b .presentValue) (b .payment) (b .ratePerPeriod) (b .numberOfPeriods) timing)
  | .presentValue =>
    .ok (presentValue (b .futureValue) (b .payment) (b .ratePerPeriod) (b .numberOfPeriods) timing)
  | .payment =>
    payment (b .presentValue) (b .futureValue) (b .ratePerPeriod) (b .numberOfPeriods) timing
  | .numberOfPeriods =>
    numberOfPeriods (b .presentValue) (b .futureValue) (b .payment) (b .ratePerPeriod) timing
  | .ratePerPeriod =>
    config.solveRate (b .presentValue) (b .futureValue) (b .payment) (b .numberOfPeriods) timing

/-- The solution that reports amounts in the signs of the problem. -/
def reported (p : Problem α) (b : Quantity → α) : Solution α where
  solvedFor := p.solveFor
  value := turn p p.solveFor (b p.solveFor)
  presentValue := turn p .presentValue (b .presentValue)
  futureValue := turn p .futureValue (b .futureValue)
  payment := turn p .payment (b .payment)
  ratePerPeriod := turn p .ratePerPeriod (b .ratePerPeriod)
  numberOfPeriods := turn p .numberOfPeriods (b .numberOfPeriods)
  periodsPerYear := p.periodsPerYear

theorem balanced_ratePerPeriod {rate : α} (h : p.ratePerPeriod = some rate) :
    balanced p .ratePerPeriod = rate := congrArg (Option.getD · 0) h

theorem balanced_numberOfPeriods {n : α} (h : p.numberOfPeriods = some n) :
    balanced p .numberOfPeriods = n := congrArg (Option.getD · 0) h

theorem amount_reported (p : Problem α) (b : Quantity → α) (q : Quantity) :
    (reported p b).amount q = turn p q (b q) := by
  cases q <;> rfl

/-- Solving brings what is given into the signs of balances, finds the unknown, and goes back. -/
theorem solve_eq (config : SolverConfig α) (p : Problem α) :
    config.solve p = p.validate >>= fun _ =>
      (config.missing p.timing (balanced p) p.solveFor).map fun value =>
        reported p (Function.update (balanced p) p.solveFor value) := by
  unfold solve
  refine congrArg (p.validate >>= ·) (funext fun _ => ?_)
  cases hunknown : p.solveFor with
  | futureValue =>
    simp only [missing, reported, hunknown]
    rfl
  | presentValue =>
    simp only [missing, reported, hunknown]
    rfl
  | payment =>
    simp only [missing, reported, hunknown]
    exact bind_pure_comp _ (payment _ _ _ _ _)
  | numberOfPeriods =>
    simp only [missing, reported, hunknown]
    exact bind_pure_comp _ (numberOfPeriods _ _ _ _ _)
  | ratePerPeriod =>
    simp only [missing, reported, hunknown]
    exact bind_pure_comp _ (solveRate _ _ _ _ _ _)

theorem solve_eq_ok_iff : config.solve p = .ok s ↔
    p.validate = .ok () ∧ ∃ value, config.missing p.timing (balanced p) p.solveFor = .ok value ∧
      reported p (Function.update (balanced p) p.solveFor value) = s := by
  rw [solve_eq, Answer.and_then_eq_ok_iff]
  refine and_congr_right fun _ => ?_
  cases config.missing p.timing (balanced p) p.solveFor with
  | error failure => exact ⟨nofun, nofun⟩
  | ok value =>
    constructor
    · intro h
      exact ⟨value, rfl, Except.ok.inj h⟩
    · rintro ⟨_, ⟨⟩, rfl⟩
      rfl

theorem validate_of_solve (h : config.solve p = .ok s) : p.validate = .ok () :=
  (solve_eq_ok_iff.mp h).1

/-- The value of a solution is what was missing, in the signs of the problem. -/
theorem exists_missing_of_solve (h : config.solve p = .ok s) :
    ∃ value, config.missing p.timing (balanced p) p.solveFor = .ok value ∧
      s.value = turn p p.solveFor value := by
  obtain ⟨-, value, hvalue, rfl⟩ := solve_eq_ok_iff.mp h
  exact ⟨value, hvalue, congrArg (turn p p.solveFor) (Function.update_self _ _ _)⟩

theorem amount_solveFor (h : config.solve p = .ok s) : s.amount p.solveFor = s.value := by
  obtain ⟨-, value, -, rfl⟩ := solve_eq_ok_iff.mp h
  exact amount_reported p _ _

theorem amount_of_ne (h : config.solve p = .ok s) {q : Quantity} (hq : q ≠ p.solveFor) :
    s.amount q = turn p q (balanced p q) := by
  obtain ⟨-, value, -, rfl⟩ := solve_eq_ok_iff.mp h
  rw [amount_reported, Function.update_of_ne hq]

end SolverConfig

end Reckoner
