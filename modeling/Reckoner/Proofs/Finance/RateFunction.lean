import Reckoner.Proofs.Finance.Finiteness
import Reckoner.Library.Finance

/-!
# The rate function

In expressions `rate` undoes `fv`, up to where its search ends. It reads a present and a future value
of opposite signs as signed cash flows, which `fv` does not, and it answers with what the search has
come to when a further step would be lost to rounding. So the future value at the rate found is
the one given only with the flows in the signs of balances, and within the tolerance only where the
search ended at a small residual. Only that the rate found is finite needs a law of the numbers.
-/

namespace Reckoner.Library

open Scalar Annuity RootSearch

variable {α : Type} [Scalar α] {nper pmt pv fv rate : α} {flag : List α}

/-- Minus one where present and future value are read as signed cash flows, else one. -/
def flowsSign (pv fv : α) : α := if pv * fv < 0 then -1 else 1

/-- How the search for a rate can end: at a rate at which `fv` gives the amount asked for, or where
Newton's method or bisection has no room left. -/
inductive RateFound (nper pmt pv fv : α) (flag : List α) (rate : α) : Prop
  | balances (amount : α)
      (amount_eq : isFinite rate = true → fvRule (rate :: nper :: pmt :: pv :: flag) = .ok amount)
      (near : (amount - fv == 0) = true ∨
        abs (amount - fv) < 1e-9 * SolverConfig.amountScale pv fv pmt)
  | stalled
      (stall : IsStalled (residual? pv fv pmt nper (timingAt flag 0))
        (residualSlope? pv pmt nper (timingAt flag 0)) rate)
  | halved (narrow : IsHalved (residual? pv fv pmt nper (timingAt flag 0)) rate)

theorem fvRule_eq_ok_iff {amount : α} :
    fvRule (rate :: nper :: pmt :: pv :: flag) = .ok amount ↔
      checkRate "fv" rate = .ok () ∧ futureValue pv pmt rate nper (timingAt flag 0) = amount := by
  have hrule : fvRule (rate :: nper :: pmt :: pv :: flag) =
      checkRate "fv" rate >>= fun _ =>
        (.ok (futureValue pv pmt rate nper (timingAt flag 0)) : Answer α α) := rfl
  rw [hrule, Answer.and_then_eq_ok_iff, Except.ok.injEq]

/-- The problem that the function solves. -/
def rateProblem (nper pmt pv fv : α) (flag : List α) : Problem α :=
  { Problem.solvingFor .ratePerPeriod with
    numberOfPeriods := some nper, payment := some pmt, presentValue := some pv,
    futureValue := some fv, timing := timingAt flag 0 }

theorem rateRule_eq_ok_iff :
    rateRule (nper :: pmt :: pv :: fv :: flag) = .ok rate ↔
      ∃ s, SolverConfig.standard.solve (rateProblem nper pmt pv fv flag) = .ok s ∧ s.value = rate := by
  have hrule : rateRule (nper :: pmt :: pv :: fv :: flag) =
      SolverConfig.standard.solve (rateProblem nper pmt pv fv flag) >>= fun s =>
        (.ok s.value : Answer α α) := rfl
  simp only [hrule, Answer.bind_eq_ok_iff, Except.ok.injEq]

theorem solveRate_of_rateRule (h : rateRule (nper :: pmt :: pv :: fv :: flag) = .ok rate) :
    SolverConfig.standard.solveRate (pv * flowsSign pv fv) fv (pmt * flowsSign pv fv) nper
      (timingAt flag 0) = .ok rate := by
  obtain ⟨s, hs, rfl⟩ := rateRule_eq_ok_iff.mp h
  exact SolverConfig.solveRate_of_solve rfl hs

theorem isFinite_of_rateRule [Strict α] (hpow : StrictPowers α)
    (h : rateRule (nper :: pmt :: pv :: fv :: flag) = .ok rate) : isFinite rate = true :=
  SolverConfig.isFinite_of_solveRate hpow (solveRate_of_rateRule h)

theorem rateFound_of_rateRule (h : rateRule (nper :: pmt :: pv :: fv :: flag) = .ok rate) :
    RateFound nper (pmt * flowsSign pv fv) (pv * flowsSign pv fv) fv flag rate := by
  rcases SolverConfig.solveRate_ends (solveRate_of_rateRule h) with
    ⟨y, hy, hnear⟩ | hstall | hhalved
  · obtain ⟨hrate, -, rfl⟩ := residual?_eq_some_iff.mp hy
    refine .balances (futureValue (pv * flowsSign pv fv) (pmt * flowsSign pv fv) rate nper
      (timingAt flag 0)) (fun hfinite => ?_) hnear
    refine fvRule_eq_ok_iff.mpr ⟨?_, rfl⟩
    unfold checkRate
    simp [hfinite, hrate]
  · exact .stalled hstall
  · exact .halved hhalved

/-- The rate that the function answers with is one of the flows in the signs of balances, or where the
search for one has no room left. Where powers are finite only of finite numbers it is finite, so `fv`
takes it. -/
theorem rateRule_found (h : rateRule (nper :: pmt :: pv :: fv :: flag) = .ok rate) :
    RateFound nper (pmt * flowsSign pv fv) (pv * flowsSign pv fv) fv flag rate ∧
      ([Strict α] → StrictPowers α → isFinite rate = true) :=
  ⟨rateFound_of_rateRule h, fun hpow => isFinite_of_rateRule hpow h⟩

/-- One period at four hundred percent: with the flows negated, `-100` and `300` come to `-200`. -/
theorem rateRule_found_fourfold :
    rateRule [1, -300, 100, -200] = .ok (4 : ℚ) ∧
      RateFound 1 (-300 * flowsSign 100 (-200)) (100 * flowsSign 100 (-200)) (-200) [] (4 : ℚ) ∧
      StrictPowers ℚ ∧ isFinite (4 : ℚ) = true := by
  have h : rateRule [1, -300, 100, -200] = .ok (4 : ℚ) := by
    obtain ⟨rate, hrate, rfl⟩ : ∃ rate : ℚ, rateRule [1, -300, 100, -200] = .ok rate ∧ rate = 4 :=
      Answer.exists_eq_ok_of_map (f := id) (by decide +kernel)
    exact hrate
  exact ⟨h, (rateRule_found h).1, strictPowers_ofField, (rateRule_found h).2 strictPowers_ofField⟩

section

variable {K : Type} [Elementary K] [Field K] [LinearOrder K] [FloorRing K]

/-- The rate found for the amount that `fv` gives at `rate` is one at which `fv` gives another, by no
less than the tolerance. -/
def Misses (rate nper pmt pv : K) : Prop :=
  ∃ fv found amount, fvRule [rate, nper, pmt, pv, 0] = .ok fv ∧
    rateRule [nper, pmt, pv, fv, 0] = .ok found ∧ fvRule [found, nper, pmt, pv, 0] = .ok amount ∧
    1e-9 * SolverConfig.amountScale pv fv pmt ≤ |amount - fv|

def missed (rate nper pmt pv : K) : Answer K Bool := do
  let fv ← fvRule [rate, nper, pmt, pv, 0]
  let found ← rateRule [nper, pmt, pv, fv, 0]
  let amount ← fvRule [found, nper, pmt, pv, 0]
  return decide (1e-9 * SolverConfig.amountScale pv fv pmt ≤ |amount - fv|)

theorem misses_of_missed {rate nper pmt pv : K}
    (h : (missed rate nper pmt pv).toOption.map id = some true) : Misses rate nper pmt pv := by
  obtain ⟨_, hmissed, rfl⟩ := Answer.exists_eq_ok_of_map h
  obtain ⟨fv, hfv, hmissed⟩ := Answer.bind_eq_ok_iff.mp hmissed
  obtain ⟨found, hfound, hmissed⟩ := Answer.bind_eq_ok_iff.mp hmissed
  obtain ⟨amount, hamount, hmissed⟩ := Answer.bind_eq_ok_iff.mp hmissed
  exact ⟨fv, found, amount, hfv, hfound, hamount, of_decide_eq_true (Except.ok.inj hmissed)⟩

end

/-- Amounts of opposite signs, a Newton step lost to rounding far from the root, and a bracket halved
to the spacing on a steep slope. -/
theorem rateRule_misses :
    Misses (0 : ℚ) 1 (-300) 100 ∧
      Misses (0.1000000000000002 : ℚ) 500 (-0.1000000000000002) 1 ∧
      Misses (0.10585 : ℚ) 200 (-0.10585) 1 :=
  ⟨misses_of_missed (by decide +kernel), misses_of_missed (by decide +kernel),
    misses_of_missed (by decide +kernel)⟩

end Reckoner.Library
