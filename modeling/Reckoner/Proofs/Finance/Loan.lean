import Reckoner.Proofs.Exact
import Reckoner.Finance.Loan

/-!
# Valid loans

What a loan satisfies, in exact arithmetic, exactly when it passes validation.
-/

namespace Reckoner

theorem Annuity.checkFinite_eq_ok_iff {α : Type} [Scalar α] {what : String} {value : α} :
    checkFinite what value = .ok () ↔ Scalar.isFinite value = true := by
  unfold checkFinite
  cases Scalar.isFinite value with
  | false => exact ⟨nofun, nofun⟩
  | true => exact ⟨fun _ => rfl, fun _ => rfl⟩

namespace Loan

open Scalar

theorem refuse_eq_ok_iff {α : Type} {fault : Bool} {why : InvalidInput α} :
    refuse fault why = .ok () ↔ fault = false := by
  cases fault with
  | false => exact ⟨fun _ => rfl, fun _ => rfl⟩
  | true => exact ⟨nofun, nofun⟩

variable {K : Type} [Elementary K] [Field K] [LinearOrder K] [FloorRing K]

theorem numberOfPeriods_pos (loan : Loan K) : 0 < loan.numberOfPeriods :=
  Nat.lt_of_lt_of_le Nat.one_pos (le_max_right _ _)

/-- The terms make sense. -/
structure Valid (loan : Loan K) : Prop where
  principal_pos : 0 < loan.principal
  term_pos : 0 < loan.termYears
  periods_le : loan.roundedPeriods ≤ ((maxPeriods : Nat) : K)
  annualRate_nonneg : 0 ≤ loan.annualRate
  downPayment_nonneg : 0 ≤ loan.downPayment
  downPayment_lt : loan.downPayment < loan.principal
  extraPayment_nonneg : 0 ≤ loan.extraPayment
  scheduledPayment_pos : ∀ payment ∈ loan.scheduledPayment, 0 < payment

theorem checkScheduled_eq_ok_iff {scheduled : Option K} :
    checkScheduled scheduled = .ok () ↔ ∀ payment ∈ scheduled, 0 < payment := by
  cases scheduled with
  | none => simp [checkScheduled]
  | some payment =>
    simp [checkScheduled, Answer.and_then_eq_ok_iff, Annuity.checkFinite_eq_ok_iff,
      refuse_eq_ok_iff]

theorem validate_eq_ok_iff {loan : Loan K} : loan.validate = .ok () ↔ loan.Valid := by
  unfold validate
  simp only [Answer.and_then_eq_ok_iff, Annuity.checkFinite_eq_ok_iff, refuse_eq_ok_iff,
    checkScheduled_eq_ok_iff, isFinite_ofField, true_and, decide_eq_false_iff_not, not_le, not_lt]
  constructor
  · rintro ⟨hprincipal, hterm, hperiods, hrate, hdown, hlt, hextra, hpayment⟩
    exact ⟨hprincipal, hterm, hperiods, hrate, hdown, hlt, hextra, hpayment⟩
  · rintro ⟨hprincipal, hterm, hperiods, hrate, hdown, hlt, hextra, hpayment⟩
    exact ⟨hprincipal, hterm, hperiods, hrate, hdown, hlt, hextra, hpayment⟩

variable [IsStrictOrderedRing K] {loan : Loan K}

theorem Valid.financedAmount_pos (valid : loan.Valid) : 0 < loan.financedAmount :=
  sub_pos.mpr valid.downPayment_lt

theorem Valid.ratePerPeriod_nonneg (valid : loan.Valid) : 0 ≤ loan.ratePerPeriod :=
  div_nonneg valid.annualRate_nonneg (Nat.cast_nonneg _)

theorem Valid.numberOfPeriods_le (valid : loan.Valid) : loan.numberOfPeriods ≤ maxPeriods :=
  max_le (toNat_le_of_le valid.periods_le) (by decide)

end Loan

end Reckoner
