import Reckoner.Proofs.Finance.Loan
import Reckoner.Finance.Problem

/-!
# Valid problems

What a problem of the time value of money satisfies, in exact arithmetic, exactly when it passes
validation: each quantity but the unknown is given.
-/

namespace Reckoner

/-- The quantities of money. -/
def Quantity.amounts : List Quantity := [presentValue, futureValue, payment]

/-- A refusal for a fault and then the rest answer when there is no fault and the rest does. -/
theorem Answer.unless_eq_ok_iff {α β γ : Type} {fault : Bool} {cause : Cause α} {rest : Answer α β}
    {y : β} :
    (if fault = true then ((cause.throw : Answer α γ) >>= fun _ => rest) else rest) = .ok y ↔
      fault = false ∧ rest = .ok y := by
  cases fault with
  | false => simp
  | true => exact ⟨nofun, nofun⟩

theorem Quantity.mem_all_erase_iff (q unknown : Quantity) : q ∈ all.erase unknown ↔ q ≠ unknown := by
  cases q <;> cases unknown <;> decide

theorem Quantity.ratePerPeriod_ne {q : Quantity} (h : q ∈ amounts) : ratePerPeriod ≠ q := by
  rintro rfl
  exact absurd h (by decide)

theorem Quantity.numberOfPeriods_ne {q : Quantity} (h : q ∈ amounts) : numberOfPeriods ≠ q := by
  rintro rfl
  exact absurd h (by decide)

theorem Annuity.checkRate_eq_ok_iff {K : Type} [Elementary K] [Field K] [LinearOrder K]
    [FloorRing K] {what : String} {rate : K} : checkRate what rate = .ok () ↔ -1 < rate := by
  unfold checkRate
  by_cases h : rate ≤ -1
  · simp [h, Cause.throw]
  · simp [h, not_le.mp h]

namespace Problem

section

variable {α : Type} {p : Problem α}

/-- The unknown is not among the quantities counted, so four of them are the other four. -/
theorem givenCount_eq_four_iff (hunknown : p.get? p.solveFor = none) :
    p.givenCount = 4 ↔ ∀ q, q ≠ p.solveFor → ∃ value, p.get? q = some value := by
  have hcount : p.givenCount =
      ((Quantity.all.erase p.solveFor).filter fun q => (p.get? q).isSome).length := by
    unfold givenCount
    cases hq : p.solveFor <;> rw [hq] at hunknown <;>
      simp [Quantity.all, List.filter_cons, hunknown]
  have hlength : (Quantity.all.erase p.solveFor).length = 4 := by
    cases p.solveFor <;> rfl
  rw [hcount, ← hlength, List.length_filter_eq_length_iff]
  simp only [Quantity.mem_all_erase_iff, Option.isSome_iff_exists]

end

variable {K : Type} [Elementary K] [Field K] [LinearOrder K] [FloorRing K] {p : Problem K}

/-- The problem makes sense. -/
structure Valid (p : Problem K) : Prop where
  unknown : p.get? p.solveFor = none
  given : ∀ q, q ≠ p.solveFor → ∃ value, p.get? q = some value
  rate_gt : ∀ rate ∈ p.ratePerPeriod, -1 < rate
  periodsPerYear_pos : 0 < p.periodsPerYear

theorem checkGiven_eq_ok (p : Problem K) (qs : List Quantity) : p.checkGiven qs = .ok () := by
  induction qs with
  | nil => rfl
  | cons q rest ih =>
    unfold checkGiven
    cases p.get? q with
    | none => exact ih
    | some value =>
      simp only [Annuity.checkFinite_eq_ok_iff.mpr (Scalar.isFinite_ofField value)]
      exact ih

theorem valid_iff : p.Valid ↔
    p.givenCount = 4 ∧ p.get? p.solveFor = none ∧ (∀ rate ∈ p.ratePerPeriod, -1 < rate) ∧
      0 < p.periodsPerYear := by
  constructor
  · rintro ⟨hunknown, hgiven, hrate, hyear⟩
    exact ⟨(givenCount_eq_four_iff hunknown).mpr hgiven, hunknown, hrate, hyear⟩
  · rintro ⟨hcount, hunknown, hrate, hyear⟩
    exact ⟨hunknown, (givenCount_eq_four_iff hunknown).mp hcount, hrate, hyear⟩

theorem validate_eq_ok_iff : p.validate = .ok () ↔ p.Valid := by
  have hyear (cause : Cause K) :
      (if 0 < p.periodsPerYear then pure () else cause.throw) = (.ok () : Answer K Unit) ↔
        0 < p.periodsPerYear := by
    split
    · rename_i hpos
      exact ⟨fun _ => hpos, fun _ => rfl⟩
    · rename_i hpos
      exact ⟨nofun, fun h => absurd h hpos⟩
  unfold validate
  simp only [Answer.unless_eq_ok_iff, Answer.and_then_eq_ok_iff, checkGiven_eq_ok, true_and,
    bne_eq_false_iff_eq, Option.isSome_eq_false_iff, Option.isNone_iff_eq_none,
    Scalar.isFinite_ofField, Bool.true_and, decide_eq_true_eq, valid_iff]
  cases p.ratePerPeriod with
  | none => simp [hyear]
  | some rate => simp [Answer.and_then_eq_ok_iff, Annuity.checkRate_eq_ok_iff, hyear]

/-- A problem about an amount has a rate and a term. -/
theorem Valid.exists_rate_and_term (valid : p.Valid) (hunknown : p.solveFor ∈ Quantity.amounts) :
    ∃ rate n, p.ratePerPeriod = some rate ∧ p.numberOfPeriods = some n := by
  obtain ⟨rate, hrate⟩ := valid.given .ratePerPeriod (Quantity.ratePerPeriod_ne hunknown)
  obtain ⟨n, hn⟩ := valid.given .numberOfPeriods (Quantity.numberOfPeriods_ne hunknown)
  exact ⟨rate, n, hrate, hn⟩

end Problem

end Reckoner
