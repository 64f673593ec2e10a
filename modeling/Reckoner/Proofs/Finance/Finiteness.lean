import Mathlib
import Reckoner.Proofs.Double.Laws
import Reckoner.Proofs.Exact.Extended
import Reckoner.Proofs.Finance.RateSearch

/-!
# What is finite in a solution

Whatever is given to the solver is finite, and so is a rate or a number of periods that it finds. An
amount that it finds is not checked: growth or payments that come to too much for a number are passed
on.
-/

namespace Reckoner

open Scalar Annuity RootSearch

namespace Scalar

/-- Sums, differences and products are finite only of finite numbers, and a change of sign keeps a
number finite. -/
class Strict (α : Type) [Scalar α] : Prop where
  isFinite_of_add {a b : α} : isFinite (a + b) = true → isFinite a = true ∧ isFinite b = true
  isFinite_of_sub {a b : α} : isFinite (a - b) = true → isFinite a = true ∧ isFinite b = true
  isFinite_of_mul {a b : α} : isFinite (a * b) = true → isFinite a = true ∧ isFinite b = true
  isFinite_mul_one {a : α} : isFinite a = true → isFinite (a * 1) = true
  isFinite_mul_neg_one {a : α} : isFinite a = true → isFinite (a * -1) = true

/-- Powers are finite only of finite numbers, unless the exponent is zero or less. Nothing is known here
of the powers of doubles, so of them this is an assumption. -/
def StrictPowers (α : Type) [Scalar α] : Prop :=
  ∀ a b : α, ¬ b ≤ 0 → isFinite (pow a b) = true → isFinite a = true

instance Strict.double : Strict Float where
  isFinite_of_add := Double.isStrict_add.of_isFinite (Double.reading_add _ _)
  isFinite_of_sub := Double.isStrict_sub.of_isFinite (Double.reading_sub _ _)
  isFinite_of_mul := Double.isStrict_mul.of_isFinite (Double.reading_mul _ _)
  isFinite_mul_one := Double.isFinite_mul_unit Double.reading_one
  isFinite_mul_neg_one := Double.isFinite_mul_unit Double.reading_neg_one

section

variable {K : Type} [Elementary K] [Field K] [LinearOrder K] [FloorRing K]

instance Strict.ofField : Strict K where
  isFinite_of_add _ := ⟨rfl, rfl⟩
  isFinite_of_sub _ := ⟨rfl, rfl⟩
  isFinite_of_mul _ := ⟨rfl, rfl⟩
  isFinite_mul_one _ := rfl
  isFinite_mul_neg_one _ := rfl

instance Strict.extended : Strict (Extended K) where
  isFinite_of_add {a b} h := by cases a <;> cases b <;> first | exact ⟨rfl, rfl⟩ | cases h
  isFinite_of_sub {a b} h := by cases a <;> cases b <;> first | exact ⟨rfl, rfl⟩ | cases h
  isFinite_of_mul {a b} h := by cases a <;> cases b <;> first | exact ⟨rfl, rfl⟩ | cases h
  isFinite_mul_one {a} h := by cases a <;> exact h
  isFinite_mul_neg_one {a} h := by cases a <;> exact h

theorem strictPowers_ofField : StrictPowers K := fun _ _ _ _ => rfl

theorem strictPowers_extended : StrictPowers (Extended K) := by
  rintro (a | _) b _ h
  · rfl
  · cases b <;> cases h

end

end Scalar

namespace Problem

variable {α : Type} [Scalar α] {p : Problem α}

theorem isFinite_of_checkGiven {qs : List Quantity} (h : p.checkGiven qs = .ok ()) {q : Quantity}
    (hq : q ∈ qs) {value : α} (hvalue : p.get? q = some value) : isFinite value = true := by
  induction qs with
  | nil => cases hq
  | cons first rest ih =>
    unfold checkGiven at h
    cases hfirst : p.get? first with
    | none =>
      simp only [hfirst] at h
      rcases List.mem_cons.mp hq with rfl | hq
      · rw [hfirst] at hvalue
        cases hvalue
      · exact ih h hq
    | some x =>
      simp only [hfirst] at h
      split at h
      · cases h
      · rename_i hcheck
        rcases List.mem_cons.mp hq with rfl | hq
        · obtain rfl := Option.some_inj.mp (hfirst.symm.trans hvalue)
          exact checkFinite_eq_ok_iff.mp hcheck
        · exact ih h hq

/-- In a valid problem every quantity but the unknown is given, and finite. -/
theorem exists_finite_of_validate (h : p.validate = .ok ()) {q : Quantity} (hq : q ≠ p.solveFor) :
    ∃ value, p.get? q = some value ∧ isFinite value = true := by
  unfold validate at h
  simp only [Answer.unless_eq_ok_iff, Answer.and_then_eq_ok_iff, bne_eq_false_iff_eq,
    Option.isSome_eq_false_iff, Option.isNone_iff_eq_none] at h
  obtain ⟨hcount, hunknown, hgiven, -⟩ := h
  obtain ⟨value, hvalue⟩ := (givenCount_eq_four_iff hunknown).mp hcount q hq
  exact ⟨value, hvalue, isFinite_of_checkGiven hgiven (Quantity.mem_all q) hvalue⟩

end Problem

namespace SolverConfig

variable {α : Type} [Scalar α] {config : SolverConfig α} {p : Problem α} {s : Solution α}

theorem isFinite_of_numberOfPeriods {pv fv pmt rate n : α} {timing : Timing}
    (h : Annuity.numberOfPeriods pv fv pmt rate timing = .ok n) : isFinite n = true := by
  unfold Annuity.numberOfPeriods at h
  split at h
  · cases h
  · split at h
    · cases h
    · rename_i hchecked
      cases h
      simp only [Bool.or_eq_true, not_or, Bool.not_eq_true', Bool.not_eq_false] at hchecked
      exact hchecked.1

variable [Strict α]

theorem isFinite_mul_flowSign (p : Problem α) {x : α} (hx : isFinite x = true) :
    isFinite (x * flowSign p) = true := by
  rcases flowSign_eq p with hsign | hsign <;> rw [hsign]
  · exact Strict.isFinite_mul_one hx
  · exact Strict.isFinite_mul_neg_one hx

/-- What is given stays finite as it goes into the signs of balances and back. -/
theorem isFinite_turn_balanced (hvalid : p.validate = .ok ()) {q : Quantity} (hq : q ≠ p.solveFor) :
    isFinite (turn p q (balanced p q)) = true := by
  obtain ⟨value, hvalue, hfinite⟩ := Problem.exists_finite_of_validate hvalid hq
  have hgiven : isFinite ((p.get? q).getD 0) = true := by
    rw [hvalue]
    exact hfinite
  cases q with
  | presentValue => exact isFinite_mul_flowSign p (isFinite_mul_flowSign p hgiven)
  | payment => exact isFinite_mul_flowSign p (isFinite_mul_flowSign p hgiven)
  | futureValue => exact hgiven
  | ratePerPeriod => exact hgiven
  | numberOfPeriods => exact hgiven

section

variable {pv fv pmt n rate : α} {timing : Timing}

/-- Where the residual has a value the growth is finite, and so is the rate. -/
theorem isFinite_of_residual? (hpow : StrictPowers α) (hn : ¬ n ≤ 0) {y : α}
    (h : residual? pv fv pmt n timing rate = some y) : isFinite rate = true := by
  obtain ⟨-, hfinite, rfl⟩ := residual?_eq_some_iff.mp h
  have hvalue : isFinite (futureValue pv pmt rate n timing) = true :=
    (Strict.isFinite_of_sub hfinite).1
  have hgrowth : isFinite (compoundFactor rate n) = true :=
    (Strict.isFinite_of_mul (Strict.isFinite_of_add hvalue).1).2
  exact (Strict.isFinite_of_add (hpow (1 + rate) n hn hgrowth)).2

theorem isFinite_of_solveRate (hpow : StrictPowers α)
    (h : config.solveRate pv fv pmt n timing = .ok rate) : isFinite rate = true := by
  obtain ⟨hn, hnewton | hbisection⟩ := solveRate_eq_ok h
  · exact isFinite_of_newton (fun x y hvalue => isFinite_of_residual? hpow hn hvalue)
      (rateByNewton?_eq_some hnewton).2
  · exact rateByBisection?_preserves (P := fun x => isFinite x = true)
      (fun c _ y hvalue => isFinite_of_residual? hpow hn hvalue)
      (fun lo hi y _ _ hvalue => isFinite_of_residual? hpow hn hvalue) hbisection

end

theorem isFinite_value_of_solve (hpow : StrictPowers α) (h : config.solve p = .ok s)
    (hunknown : p.solveFor ∉ Quantity.amounts) : isFinite s.value = true := by
  obtain ⟨value, hvalue, hs⟩ := exists_missing_of_solve h
  rw [hs]
  cases hq : p.solveFor with
  | ratePerPeriod =>
    rw [hq] at hvalue
    exact isFinite_of_solveRate hpow hvalue
  | numberOfPeriods =>
    rw [hq] at hvalue
    exact isFinite_of_numberOfPeriods hvalue
  | presentValue => exact absurd (hq ▸ by decide) hunknown
  | futureValue => exact absurd (hq ▸ by decide) hunknown
  | payment => exact absurd (hq ▸ by decide) hunknown

/-- A future value is finite only if the growth and the payments that make it up are. -/
theorem isFinite_parts_of_solve (h : config.solve p = .ok s) (hunknown : p.solveFor = .futureValue)
    (hvalue : isFinite s.value = true) :
    isFinite (compoundFactor (p.ratePerPeriod.getD 0) (p.numberOfPeriods.getD 0)) = true ∧
      isFinite (p.payment.getD 0 * flowSign p *
        annuityFactor (p.ratePerPeriod.getD 0) (p.numberOfPeriods.getD 0)) = true := by
  obtain ⟨value, hmissing, hs⟩ := exists_missing_of_solve h
  rw [hunknown] at hmissing hs
  obtain rfl := Except.ok.inj hmissing
  rw [hs] at hvalue
  obtain ⟨hgrown, hpaid⟩ := Strict.isFinite_of_add hvalue
  exact ⟨(Strict.isFinite_of_mul hgrown).2, (Strict.isFinite_of_mul hpaid).1⟩

/-- All five quantities of a solution are finite, unless an amount was sought and is not finite: that
is not checked, and growth or payments that are not finite are passed on to the future value. -/
theorem solve_finite_iff (hpow : StrictPowers α) (h : config.solve p = .ok s) :
    ((∀ q, isFinite (s.amount q) = true) ↔
      (p.solveFor ∈ Quantity.amounts → isFinite s.value = true)) ∧
    (p.solveFor = .futureValue → isFinite s.value = true →
      isFinite (compoundFactor (p.ratePerPeriod.getD 0) (p.numberOfPeriods.getD 0)) = true ∧
      isFinite (p.payment.getD 0 * flowSign p *
        annuityFactor (p.ratePerPeriod.getD 0) (p.numberOfPeriods.getD 0)) = true) := by
  refine ⟨⟨fun hall _ => amount_solveFor h ▸ hall p.solveFor, fun hvalue q => ?_⟩,
    isFinite_parts_of_solve h⟩
  by_cases hq : q = p.solveFor
  · rw [hq, amount_solveFor h]
    by_cases hamount : p.solveFor ∈ Quantity.amounts
    · exact hvalue hamount
    · exact isFinite_value_of_solve hpow h hamount
  · rw [amount_of_ne h hq]
    exact isFinite_turn_balanced (validate_of_solve h) hq

/-- A unit that doubles in each of ten periods. -/
def doublings : Problem (Extended ℚ) :=
  { Problem.solvingFor .futureValue with
    presentValue := some 1, payment := some 0, ratePerPeriod := some 1,
    numberOfPeriods := some (.finite 10) }

/-- Payments at no interest that come to more than the largest double. -/
def excessivePayments : Problem Float :=
  { Problem.solvingFor .futureValue with
    presentValue := some 0, payment := some 1e300, ratePerPeriod := some 0,
    numberOfPeriods := some 1e300 }

/-- The doublings come to a finite amount. The payments do not, and the solver answers all the
same. -/
theorem solve_finite_iff_doublings :
    (∃ s, standard.solve doublings = .ok s ∧ isFinite s.value = true ∧
      ∀ q, isFinite (s.amount q) = true) ∧
    ∃ s, standard.solve excessivePayments = .ok s ∧ isFinite s.value = false := by
  constructor
  · have hfinite : ((standard.solve doublings).toOption.map fun s => isFinite s.value) = some true :=
      by decide +kernel
    obtain ⟨s, hs, hvalue⟩ := Answer.exists_eq_ok_of_map hfinite
    exact ⟨s, hs, hvalue, (solve_finite_iff strictPowers_extended hs).1.mpr fun _ => hvalue⟩
  · have hsolves : (standard.solve excessivePayments).toOption.isSome = true := by decide +kernel
    obtain ⟨s, hs⟩ := Answer.exists_eq_ok_of_isSome hsolves
    refine ⟨s, hs, ?_⟩
    cases hvalue : isFinite s.value with
    | false => rfl
    | true =>
      have hpaid := (isFinite_parts_of_solve hs rfl hvalue).2
      exact absurd hpaid (by decide +kernel)

end SolverConfig

end Reckoner
