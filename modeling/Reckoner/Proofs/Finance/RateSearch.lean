import Reckoner.Proofs.Finance.Balance
import Reckoner.Proofs.RootSearch

/-!
# The search for a rate

A rate that is found is where Newton's method or bisection ends. In exact arithmetic the residual has
a value at every rate above `-1`. So bisection rescues every search in which Newton's method fails,
provided that the candidate rates show a change of sign; a search that does not converge has seen
residuals of one sign only.
-/

namespace Reckoner

open Scalar Annuity RootSearch

theorem Annuity.residual?_eq_some_iff {α : Type} [Scalar α] {pv fv pmt n rate y : α}
    {timing : Timing} :
    residual? pv fv pmt n timing rate = some y ↔
      ¬ rate ≤ -1 ∧ isFinite y = true ∧ residual pv fv pmt rate n timing = y := by
  unfold residual? finite?
  by_cases hrate : rate ≤ -1
  · simp [hrate]
  · simp only [hrate, if_false, not_false_eq_true, true_and, Option.ite_none_right_eq_some,
      Option.some_inj]
    constructor
    · rintro ⟨hfinite, rfl⟩
      exact ⟨hfinite, rfl⟩
    · rintro ⟨hfinite, rfl⟩
      exact ⟨hfinite, rfl⟩

namespace Problem

variable {α : Type} [Scalar α]

/-- The residual of a problem at a rate, in the signs of balances in which it is solved. -/
def residual (p : Problem α) (rate : α) : α :=
  Annuity.residual (SolverConfig.balanced p .presentValue) (SolverConfig.balanced p .futureValue)
    (SolverConfig.balanced p .payment) rate (SolverConfig.balanced p .numberOfPeriods) p.timing

/-- The residual where the search sees one. -/
def residual? (p : Problem α) (rate : α) : Option α :=
  Annuity.residual? (SolverConfig.balanced p .presentValue) (SolverConfig.balanced p .futureValue)
    (SolverConfig.balanced p .payment) (SolverConfig.balanced p .numberOfPeriods) p.timing rate

/-- The slope of the residual where the search sees one. -/
def residualSlope? (p : Problem α) (rate : α) : Option α :=
  Annuity.residualSlope? (SolverConfig.balanced p .presentValue) (SolverConfig.balanced p .payment)
    (SolverConfig.balanced p .numberOfPeriods) p.timing rate

/-- What the tolerance is a fraction of. -/
def scale (p : Problem α) : α :=
  SolverConfig.amountScale (SolverConfig.balanced p .presentValue)
    (SolverConfig.balanced p .futureValue) (SolverConfig.balanced p .payment)

end Problem

namespace SolverConfig

section

variable {α : Type} [Scalar α] {config : SolverConfig α} {pv fv pmt n rate : α} {timing : Timing}

theorem rateByNewton?_eq_some {tolerance : α}
    (h : config.rateByNewton? pv fv pmt n timing tolerance = some rate) :
    -1 < rate ∧ newton (residual? pv fv pmt n timing) (residualSlope? pv pmt n timing) tolerance
      config.maxIterations config.initialGuess = some rate := by
  unfold rateByNewton? at h
  split at h
  · rename_i hnewton
    obtain ⟨hrate, rfl⟩ := Option.ite_some_none_eq_some.mp h
    exact ⟨hrate, hnewton⟩
  · cases h

theorem rateByBisection?_eq_some {tolerance : α}
    (h : rateByBisection? pv fv pmt n timing tolerance = some rate) :
    ∃ lo hi, bracket? (residual? pv fv pmt n timing) bracketCandidates = some (lo, hi) ∧
      bisect (residual? pv fv pmt n timing) lo hi tolerance bisectionSteps = some rate := by
  unfold rateByBisection? at h
  split at h
  · rename_i hbracket
    exact ⟨_, _, hbracket, h⟩
  · cases h

theorem solveRate_eq_ok (h : config.solveRate pv fv pmt n timing = .ok rate) :
    ¬ n ≤ 0 ∧
      (config.rateByNewton? pv fv pmt n timing (config.tolerance * amountScale pv fv pmt) = some rate ∨
        rateByBisection? pv fv pmt n timing (config.tolerance * amountScale pv fv pmt) =
          some rate) := by
  unfold solveRate at h
  split at h
  · cases h
  · rename_i hn
    refine ⟨hn, ?_⟩
    cases hnewton : config.rateByNewton? pv fv pmt n timing
        (config.tolerance * amountScale pv fv pmt) with
    | some found =>
      simp only [hnewton] at h
      cases h
      exact .inl rfl
    | none =>
      simp only [hnewton] at h
      split at h
      · rename_i found hfallback
        cases h
        exact .inr (Option.ite_none_right_eq_some.mp hfallback).2
      · cases h

/-- The rate found is where one of the two searches ends. -/
theorem solveRate_ends (h : config.solveRate pv fv pmt n timing = .ok rate) :
    IsNear (residual? pv fv pmt n timing) (config.tolerance * amountScale pv fv pmt) rate ∨
      IsStalled (residual? pv fv pmt n timing) (residualSlope? pv pmt n timing) rate ∨
      IsHalved (residual? pv fv pmt n timing) rate := by
  obtain ⟨-, hnewton | hbisection⟩ := solveRate_eq_ok h
  · exact (newton_ends (rateByNewton?_eq_some hnewton).2).imp id .inl
  · obtain ⟨lo, hi, -, hbisect⟩ := rateByBisection?_eq_some hbisection
    exact (bisect_ends hbisect).imp id .inr

/-- Bisection finds a rate of which whatever holds of the candidates holds, if it passes to every
middle. -/
theorem rateByBisection?_preserves {P : α → Prop}
    (hcandidate : ∀ c ∈ bracketCandidates, ∀ y, residual? pv fv pmt n timing c = some y → P c)
    (hmiddle : ∀ lo hi y, P lo → P hi →
      residual? pv fv pmt n timing (0.5 * (lo + hi)) = some y → P (0.5 * (lo + hi)))
    {tolerance : α} (h : rateByBisection? pv fv pmt n timing tolerance = some rate) : P rate := by
  obtain ⟨lo, hi, hbracket, hbisect⟩ := rateByBisection?_eq_some h
  obtain ⟨flo, fhi, hlo, hflo, hhi, hfhi⟩ := bracket?_eq_some hbracket
  exact (bisect_ends_within hmiddle (hcandidate lo hlo flo hflo) (hcandidate hi hhi fhi hfhi)
    hbisect).1

theorem solveRate_of_solve {p : Problem α} {s : Solution α} (hunknown : p.solveFor = .ratePerPeriod)
    (h : config.solve p = .ok s) :
    config.solveRate (balanced p .presentValue) (balanced p .futureValue) (balanced p .payment)
      (balanced p .numberOfPeriods) p.timing = .ok s.value := by
  obtain ⟨rate, hrate, hvalue⟩ := exists_missing_of_solve h
  rw [hunknown] at hrate hvalue
  rw [hvalue]
  exact hrate

end

end SolverConfig

variable {K : Type} [Elementary K] [Field K] [LinearOrder K] [FloorRing K]

theorem Annuity.residual?_eq_some {rate : K} (hrate : -1 < rate) (pv fv pmt n : K)
    (timing : Timing) :
    residual? pv fv pmt n timing rate = some (residual pv fv pmt rate n timing) :=
  residual?_eq_some_iff.mpr ⟨not_le.mpr hrate, isFinite_ofField _, rfl⟩

namespace SolverConfig

variable [IsStrictOrderedRing K]

theorem bracketCandidates_bounds :
    ∀ c ∈ (bracketCandidates : List K), -1 < c ∧ c ≤ 10 := by
  simp only [bracketCandidates, List.forall_mem_cons]
  norm_num

theorem width_candidates_le {lo hi : K} (hlo : lo ∈ bracketCandidates)
    (hhi : hi ∈ bracketCandidates) : |hi - lo| ≤ 2 ^ 56 * spacing := by
  obtain ⟨hlo, hlo'⟩ := bracketCandidates_bounds lo hlo
  obtain ⟨hhi, hhi'⟩ := bracketCandidates_bounds hi hhi
  have hspacing : (2 : K) ^ 56 * spacing = 16 := by
    unfold spacing
    norm_num
  rw [hspacing, abs_le]
  constructor <;> linarith

theorem exists_rateByBisection?_eq_some {pv fv pmt n : K} {timing : Timing}
    (hchange : ChangesSign (fun c => residual pv fv pmt c n timing) bracketCandidates)
    (tolerance : K) :
    ∃ rate, -1 < rate ∧ rateByBisection? pv fv pmt n timing tolerance = some rate := by
  have hvalue (rate : K) (hrate : -1 < rate) := residual?_eq_some hrate pv fv pmt n timing
  have hmiddle (x y : K) (hx : -1 < x) (hy : -1 < y) : -1 < (x + y) / 2 := by linarith
  have hlength : 2 ≤ (bracketCandidates : List K).length := by simp [bracketCandidates]
  obtain ⟨lo, hlo, hi, hhi, hbracket, hends⟩ := hchange.exists_bracket hlength
    fun c hc => hvalue c (bracketCandidates_bounds c hc).1
  -- Fifty-six halvings are enough, and there are more.
  have hsteps : 56 < bisectionSteps := by decide
  have hlo_gt := (bracketCandidates_bounds lo hlo).1
  have hhi_gt := (bracketCandidates_bounds hi hhi).1
  obtain ⟨rate, hrate, hbisect⟩ := exists_bisect_eq_some (fun x hx => ⟨_, hvalue x hx⟩) hmiddle
    tolerance hsteps hlo_gt hhi_gt (hvalue lo hlo_gt) (hvalue hi hhi_gt)
    (width_candidates_le hlo hhi) hends
  refine ⟨rate, hrate, ?_⟩
  unfold rateByBisection?
  simp only [hbracket]
  exact hbisect

theorem exists_solveRate_eq_ok (config : SolverConfig K) (hfallback : config.bisectionFallback = true)
    {pv fv pmt n : K} (hn : 0 < n) {timing : Timing}
    (hchange : ChangesSign (fun c => residual pv fv pmt c n timing) bracketCandidates) :
    ∃ rate, -1 < rate ∧ config.solveRate pv fv pmt n timing = .ok rate := by
  unfold solveRate
  rw [if_neg (not_le.mpr hn)]
  simp only [hfallback, if_true]
  cases hnewton : config.rateByNewton? pv fv pmt n timing
      (config.tolerance * amountScale pv fv pmt) with
  | some rate => exact ⟨rate, (rateByNewton?_eq_some hnewton).1, rfl⟩
  | none =>
    obtain ⟨rate, hrate, hbisect⟩ := exists_rateByBisection?_eq_some hchange
      (config.tolerance * amountScale pv fv pmt)
    refine ⟨rate, hrate, ?_⟩
    simp only [hbisect]

theorem exists_solution_of_changesSign (config : SolverConfig K)
    (hfallback : config.bisectionFallback = true) {p : Problem K} (valid : p.Valid)
    (hunknown : p.solveFor = .ratePerPeriod) (hn : ∀ n ∈ p.numberOfPeriods, 0 < n)
    (hchange : ChangesSign p.residual bracketCandidates) :
    ∃ s, config.solve p = .ok s ∧ -1 < s.ratePerPeriod ∧ s.value = s.ratePerPeriod := by
  obtain ⟨n, hnumber⟩ := valid.given .numberOfPeriods (by rw [hunknown]; exact nofun)
  have hpositive : 0 < balanced p .numberOfPeriods := by
    rw [balanced_numberOfPeriods hnumber]
    exact hn n hnumber
  obtain ⟨rate, hrate, hsolve⟩ := exists_solveRate_eq_ok config hfallback hpositive hchange
  have hmissing : config.missing p.timing (balanced p) p.solveFor = .ok rate := by
    rw [hunknown]
    exact hsolve
  refine ⟨reported p (Function.update (balanced p) p.solveFor rate), ?_, ?_, ?_⟩
  · rw [solve_eq_of_valid config valid, hmissing]
    rfl
  · rw [hunknown]
    exact hrate
  · rw [hunknown]
    simp only [reported, hunknown]

/-- A problem about the rate whose residual changes sign among the candidate rates has a solution, so
that the search fails to converge only when the residual is of one sign at all of them. -/
theorem solve_rate_of_changesSign (config : SolverConfig K)
    (hfallback : config.bisectionFallback = true) (p : Problem K) (hvalid : p.validate = .ok ())
    (hunknown : p.solveFor = .ratePerPeriod) (hn : ∀ n ∈ p.numberOfPeriods, 0 < n) :
    (ChangesSign p.residual bracketCandidates →
      ∃ s, config.solve p = .ok s ∧ -1 < s.ratePerPeriod ∧ s.value = s.ratePerPeriod) ∧
    ∀ failure, config.solve p = .error failure → failure.kind = .convergence →
      (∀ c ∈ bracketCandidates, p.residual c < 0) ∨ ∀ c ∈ bracketCandidates, 0 < p.residual c := by
  have valid := Problem.validate_eq_ok_iff.mp hvalid
  have hsolves := exists_solution_of_changesSign config hfallback valid hunknown hn
  refine ⟨hsolves, ?_⟩
  intro failure hfailure _
  rcases one_sign_or_changesSign p.residual bracketCandidates with hneg | hpos | hchange
  · exact .inl hneg
  · exact .inr hpos
  · obtain ⟨s, hs, -⟩ := hsolves hchange
    rw [hs] at hfailure
    cases hfailure

/-- A thousand that doubles over ten periods. -/
def doublingDecade : Problem ℚ :=
  { Problem.solvingFor .ratePerPeriod with
    presentValue := some 1000, futureValue := some 2000, payment := some 0,
    numberOfPeriods := some 10 }

theorem doublingDecade_valid : doublingDecade.Valid := by
  rw [Problem.valid_iff]
  decide +kernel

theorem doublingDecade_periods_pos : ∀ n ∈ doublingDecade.numberOfPeriods, 0 < n := by
  rintro _ ⟨⟩
  norm_num

theorem doublingDecade_changesSign : ChangesSign doublingDecade.residual bracketCandidates :=
  .inr ⟨0, by decide +kernel, 0.1, by decide +kernel, by decide +kernel, by decide +kernel⟩

/-- A search that starts below every rate, where Newton's method cannot take a step. -/
def lostSearch : SolverConfig ℚ :=
  { (standard : SolverConfig ℚ) with initialGuess := -5, tolerance := 0 }

theorem solve_rate_of_changesSign_doublingDecade :
    doublingDecade.validate = .ok () ∧ ChangesSign doublingDecade.residual bracketCandidates ∧
      ∃ s, lostSearch.solve doublingDecade = .ok s ∧ -1 < s.ratePerPeriod ∧
        s.value = s.ratePerPeriod := by
  have hvalid : doublingDecade.validate = .ok () :=
    Problem.validate_eq_ok_iff.mpr doublingDecade_valid
  exact ⟨hvalid, doublingDecade_changesSign,
    (solve_rate_of_changesSign lostSearch rfl doublingDecade hvalid rfl
      doublingDecade_periods_pos).1 doublingDecade_changesSign⟩

end SolverConfig

end Reckoner
