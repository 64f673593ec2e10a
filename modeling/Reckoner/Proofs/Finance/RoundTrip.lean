import Reckoner.Proofs.Exact.Real
import Reckoner.Proofs.Finance.Balance

/-!
# Solving back

A solution, with another amount left out, is a problem about that amount. The equation then has the
old amount for its only solution, provided that both problems are read in one sign. They are not when
the payment is asked for in one of them alone and present and future value have opposite signs: then
no amount satisfies both equations.
-/

namespace Reckoner

namespace Problem

section

variable {α : Type}

/-- The problem with one quantity fewer given. -/
def leaveOut (p : Problem α) : Quantity → Problem α
  | .presentValue => { p with presentValue := none }
  | .futureValue => { p with futureValue := none }
  | .payment => { p with payment := none }
  | .ratePerPeriod => { p with ratePerPeriod := none }
  | .numberOfPeriods => { p with numberOfPeriods := none }

/-- The problem with the unknown given as solved, and another quantity asked for instead. -/
def askInstead (p : Problem α) (s : Solution α) (q : Quantity) : Problem α :=
  { (p.give p.solveFor s.value).leaveOut q with solveFor := q }

theorem get?_give (p : Problem α) (given : Quantity) (x : α) (q : Quantity) :
    (p.give given x).get? q = if q = given then some x else p.get? q := by
  cases given <;> cases q <;> rfl

theorem get?_leaveOut (p : Problem α) (out q : Quantity) :
    (p.leaveOut out).get? q = if q = out then none else p.get? q := by
  cases out <;> cases q <;> rfl

theorem get?_askInstead (p : Problem α) (s : Solution α) (unknown q : Quantity) :
    (p.askInstead s unknown).get? q =
      if q = unknown then none else if q = p.solveFor then some s.value else p.get? q := by
  rw [← get?_give, ← get?_leaveOut]
  cases q <;> rfl

theorem askInstead_timing (p : Problem α) (s : Solution α) (q : Quantity) :
    (p.askInstead s q).timing = p.timing := by
  unfold askInstead leaveOut give
  cases q <;> cases p.solveFor <;> rfl

theorem askInstead_periodsPerYear (p : Problem α) (s : Solution α) (q : Quantity) :
    (p.askInstead s q).periodsPerYear = p.periodsPerYear := by
  unfold askInstead leaveOut give
  cases q <;> cases p.solveFor <;> rfl

end

end Problem

open Annuity

variable {K : Type} [Elementary K] [Field K] [LinearOrder K] [FloorRing K]

namespace Problem

variable {p : Problem K} {s : Solution K} {q : Quantity}

/-- What is given in the new problem are the amounts of the solution. -/
theorem get?_askInstead_eq_amount (valid : p.Valid) (hs : s.Answers p) {r : Quantity} (hr : r ≠ q) :
    (p.askInstead s q).get? r = some (s.amount r) := by
  rw [get?_askInstead, if_neg hr]
  split
  · rename_i h
    rw [h, hs.value_eq]
  · rename_i h
    obtain ⟨x, hx⟩ := valid.given r h
    rw [hx, hs.given r x hx]

theorem askInstead_ratePerPeriod (valid : p.Valid) (hs : s.Answers p) (hq : q ∈ Quantity.amounts) :
    (p.askInstead s q).ratePerPeriod = some s.ratePerPeriod :=
  get?_askInstead_eq_amount valid hs (Quantity.ratePerPeriod_ne hq)

theorem askInstead_numberOfPeriods (valid : p.Valid) (hs : s.Answers p)
    (hq : q ∈ Quantity.amounts) :
    (p.askInstead s q).numberOfPeriods = some s.numberOfPeriods :=
  get?_askInstead_eq_amount valid hs (Quantity.numberOfPeriods_ne hq)

theorem askInstead_valid (valid : p.Valid) (hs : s.Answers p) (hq : q ∈ Quantity.amounts)
    (hrate : -1 < s.ratePerPeriod) : (p.askInstead s q).Valid where
  unknown := by
    show (p.askInstead s q).get? q = none
    rw [get?_askInstead, if_pos rfl]
  given r hr := ⟨s.amount r, get?_askInstead_eq_amount valid hs hr⟩
  rate_gt := by
    rw [askInstead_ratePerPeriod valid hs hq]
    rintro rate ⟨⟩
    exact hrate
  periodsPerYear_pos := askInstead_periodsPerYear p s q ▸ valid.periodsPerYear_pos

/-- Both flows are given only where the payment is sought. -/
theorem hasSignedFlows_iff (valid : p.Valid) (hunknown : p.solveFor ∈ Quantity.amounts)
    {amount : Quantity → K} (hgiven : ∀ r, ∀ x ∈ p.get? r, amount r = x) :
    p.HasSignedFlows ↔
      p.solveFor = .payment ∧ OppositeSigns (amount .presentValue) (amount .futureValue) := by
  constructor
  · rintro ⟨pv, hpv, fv, hfv, hopposite⟩
    refine ⟨?_, ?_⟩
    · cases h : p.solveFor with
      | payment => rfl
      | presentValue => exact absurd ((h ▸ valid.unknown).symm.trans hpv) nofun
      | futureValue => exact absurd ((h ▸ valid.unknown).symm.trans hfv) nofun
      | ratePerPeriod => exact absurd (h ▸ hunknown) (by decide)
      | numberOfPeriods => exact absurd (h ▸ hunknown) (by decide)
    · rw [hgiven .presentValue pv hpv, hgiven .futureValue fv hfv]
      exact hopposite
  · rintro ⟨hpayment, hopposite⟩
    obtain ⟨pv, hpv⟩ := valid.given .presentValue (by rw [hpayment]; exact nofun)
    obtain ⟨fv, hfv⟩ := valid.given .futureValue (by rw [hpayment]; exact nofun)
    rw [hgiven .presentValue pv hpv, hgiven .futureValue fv hfv] at hopposite
    exact ⟨pv, hpv, fv, hfv, hopposite⟩

/-- Where the payment is asked for in one problem alone, opposite signs are seen in that one alone. -/
theorem sameReading_iff (valid : p.Valid) (hs : s.Answers p) (valid' : (p.askInstead s q).Valid)
    (hunknown : p.solveFor ∈ Quantity.amounts) (hq : q ∈ Quantity.amounts) (hne : q ≠ p.solveFor) :
    (p.HasSignedFlows ↔ (p.askInstead s q).HasSignedFlows) ↔
      (p.solveFor ≠ .payment ∧ q ≠ .payment) ∨
        ¬ OppositeSigns s.presentValue s.futureValue := by
  have hgiven' (r : Quantity) (x : K) (hx : x ∈ (p.askInstead s q).get? r) : s.amount r = x := by
    have hr : r ≠ q := by
      rintro rfl
      cases valid'.unknown.symm.trans hx
    exact Option.some_inj.mp ((get?_askInstead_eq_amount valid hs hr).symm.trans hx)
  rw [hasSignedFlows_iff valid hunknown hs.given, hasSignedFlows_iff valid' hq hgiven']
  show (p.solveFor = .payment ∧ OppositeSigns s.presentValue s.futureValue ↔
    q = .payment ∧ OppositeSigns s.presentValue s.futureValue) ↔ _
  by_cases hopposite : OppositeSigns s.presentValue s.futureValue
  · simp only [hopposite, and_true, not_true_eq_false, or_false]
    constructor
    · intro h
      refine ⟨fun hp => hne ?_, fun hq => hne ?_⟩
      · exact (h.mp hp).trans hp.symm
      · exact hq.trans (h.mpr hq).symm
    · rintro ⟨hp, hq⟩
      exact ⟨fun h => absurd h hp, fun h => absurd h hq⟩
  · simp [hopposite]

end Problem

/-- Rate and term are such that each amount can be found from the others. -/
structure Solution.Solvable (s : Solution K) : Prop where
  rate_gt : -1 < s.ratePerPeriod
  rate_eq_zero_or : s.ratePerPeriod = 0 ∨ 1e-12 ≤ |s.ratePerPeriod|
  term_ne : s.numberOfPeriods ≠ 0
  grows : Grows s.ratePerPeriod s.numberOfPeriods

namespace Solution.Answers

variable {p : Problem K} {s s' : Solution K} {q : Quantity}

theorem futureValue_ne_zero (hs : s.Answers p) (hflows : p.HasSignedFlows) :
    s.amount .futureValue ≠ 0 := by
  obtain ⟨pv, -, fv, hfv, hopposite⟩ := hflows
  rw [hs.given .futureValue fv hfv]
  rcases hopposite with ⟨-, h⟩ | ⟨-, h⟩
  · exact h.ne
  · exact h.ne'

theorem amount_eq_of_ne (valid : p.Valid) (hs : s.Answers p) (hs' : s'.Answers (p.askInstead s q))
    {r : Quantity} (hr : r ≠ q) : s'.amount r = s.amount r :=
  hs'.given r _ (Problem.get?_askInstead_eq_amount valid hs hr)

end Solution.Answers

variable [IsStrictOrderedRing K]

namespace Annuity

/-- Amounts that agree on all but one quantity and satisfy the equation in one sign agree on that
quantity too. -/
theorem Balances.unique {sign : K} {timing : Timing} {x y : Quantity → K} {q : Quantity}
    (hx : Balances sign timing x) (hy : Balances sign timing y) (hsign : sign ≠ 0)
    (hsame : ∀ r, r ≠ q → x r = y r) (hq : q ∈ Quantity.amounts)
    (hrate : -1 < x .ratePerPeriod) (grows : Grows (x .ratePerPeriod) (x .numberOfPeriods))
    (hn : x .numberOfPeriods ≠ 0) : x q = y q := by
  have hsameRate : y .ratePerPeriod = x .ratePerPeriod :=
    (hsame _ (Quantity.ratePerPeriod_ne hq)).symm
  have hsameTerm : y .numberOfPeriods = x .numberOfPeriods :=
    (hsame _ (Quantity.numberOfPeriods_ne hq)).symm
  unfold Balances at hx hy
  rw [hsameRate, hsameTerm] at hy
  -- The equation is linear in each amount, with a coefficient that is not zero.
  cases q with
  | futureValue =>
    rw [hx, hy, hsame .presentValue nofun, hsame .payment nofun]
  | presentValue =>
    rw [hsame .futureValue nofun, hy, hsame .payment nofun] at hx
    have hproduct := add_right_cancel hx
    have hfactor := mul_right_cancel₀ grows.pos.ne' hproduct
    exact (mul_left_cancel₀ hsign hfactor).symm
  | payment =>
    rw [hsame .futureValue nofun, hy, hsame .presentValue nofun] at hx
    have hproduct := add_left_cancel hx
    have hunit := (unitAnnuity_eq_zero_iff grows).not.mpr hn
    have htiming := mul_right_cancel₀ (factor_pos hrate timing).ne' hproduct
    have hfactor := mul_right_cancel₀ hunit htiming
    exact (mul_left_cancel₀ hsign hfactor).symm
  | ratePerPeriod => exact absurd hq (by decide)
  | numberOfPeriods => exact absurd hq (by decide)

/-- Only for a future value of zero do amounts satisfy the equation in both signs. -/
theorem Balances.futureValue_eq_zero {sign : K} {timing : Timing} {x : Quantity → K}
    (h : Balances sign timing x) (h' : Balances (-sign) timing x) : x .futureValue = 0 := by
  unfold Balances at h h'
  linear_combination (h + h') / 2

end Annuity

namespace Solution.Answers

variable {p : Problem K} {s s' : Solution K} {q : Quantity}

/-- The amount left out comes back exactly when both problems are read in one sign. -/
theorem value_askInstead_iff (valid : p.Valid) (hs : s.Answers p)
    (hs' : s'.Answers (p.askInstead s q)) (hq : q ∈ Quantity.amounts) (solvable : s.Solvable) :
    s'.value = s.amount q ↔ (p.HasSignedFlows ↔ (p.askInstead s q).HasSignedFlows) := by
  have hvalue : s'.value = s'.amount q := hs'.value_eq
  have hsame (r : Quantity) (hr : r ≠ q) : s.amount r = s'.amount r :=
    (amount_eq_of_ne valid hs hs' hr).symm
  obtain ⟨sign, hsign, hflows, hbalance⟩ := hs.balances
  obtain ⟨sign', hsign', hflows', hbalance'⟩ := hs'.balances
  rw [Problem.askInstead_timing] at hbalance'
  rw [hvalue]
  constructor
  · intro heq
    have hall : s'.amount = s.amount := by
      funext r
      by_cases hr : r = q
      · rw [hr, heq]
      · exact (hsame r hr).symm
    rw [hall] at hbalance'
    by_contra hreading
    -- A future value that fits both signs is zero, and then neither problem shows opposite signs.
    have hopposite : sign' = -sign := by
      rcases hsign with rfl | rfl <;> rcases hsign' with rfl | rfl
      · exact absurd (hflows.symm.trans hflows') hreading
      · rfl
      · exact (neg_neg 1).symm
      · exact absurd (hflows.symm.trans hflows') hreading
    rw [hopposite] at hbalance'
    have hzero : s.amount .futureValue = 0 := hbalance.futureValue_eq_zero hbalance'
    have hno : ¬ p.HasSignedFlows := fun h => hs.futureValue_ne_zero h hzero
    have hno' : ¬ (p.askInstead s q).HasSignedFlows := fun h =>
      hs'.futureValue_ne_zero h (hall ▸ hzero)
    exact hreading (iff_of_false hno hno')
  · intro hreading
    have hsigns : sign' = sign := by
      have hminus : sign = -1 ↔ sign' = -1 := hflows.trans (hreading.trans hflows'.symm)
      rcases hsign with hone | hone
      · have hne : sign' ≠ -1 := fun h => absurd (hminus.mpr h) (by rw [hone]; norm_num)
        exact (hsign'.resolve_right hne).trans hone.symm
      · exact (hminus.mp hone).trans hone.symm
    rw [hsigns] at hbalance'
    have hsign_ne : sign ≠ 0 := by
      rcases hsign with rfl | rfl
      · exact one_ne_zero
      · exact neg_ne_zero.mpr one_ne_zero
    exact (hbalance.unique hbalance' hsign_ne hsame hq solvable.rate_gt solvable.grows
      solvable.term_ne).symm

end Solution.Answers

namespace SolverConfig

variable {p : Problem K} {s : Solution K} {q : Quantity}

theorem answers_of_solve_eq_ok (config : SolverConfig K) (valid : p.Valid)
    (hn : p.numberOfPeriods ≠ some 0) (hrate : ∀ rate ∈ p.ratePerPeriod, rate = 0 ∨ 1e-12 ≤ |rate|)
    (hgrows : ∀ rate ∈ p.ratePerPeriod, ∀ n ∈ p.numberOfPeriods, Grows rate n)
    (hunknown : p.solveFor ∈ Quantity.amounts) (hs : config.solve p = .ok s) :
    s.Answers p ∧ s.Solvable := by
  obtain ⟨s₀, hs₀, answers⟩ := exists_solution config valid hunknown (fun _ => hn) hrate hgrows
  rw [← Except.ok.inj (hs.symm.trans hs₀)] at answers
  obtain ⟨rate, n, hr, hnumber⟩ := valid.exists_rate_and_term hunknown
  have hsrate : s.ratePerPeriod = rate := answers.given .ratePerPeriod rate hr
  have hsn : s.numberOfPeriods = n := answers.given .numberOfPeriods n hnumber
  refine ⟨answers, ?_, ?_, ?_, ?_⟩
  · exact hsrate ▸ valid.rate_gt rate hr
  · exact hsrate ▸ hrate rate hr
  · intro hzero
    exact hn (hnumber.trans (congrArg some (hsn.symm.trans hzero)))
  · exact hsrate ▸ hsn ▸ hgrows rate hr n hnumber

theorem exists_answer_askInstead (config : SolverConfig K) (valid : p.Valid) (answers : s.Answers p)
    (solvable : s.Solvable) (hq : q ∈ Quantity.amounts) :
    ∃ s', config.solve (p.askInstead s q) = .ok s' ∧ s'.Answers (p.askInstead s q) := by
  have hrate := Problem.askInstead_ratePerPeriod valid answers hq
  have hn := Problem.askInstead_numberOfPeriods valid answers hq
  apply exists_solution config (Problem.askInstead_valid valid answers hq solvable.rate_gt) hq
  · rintro - hzero
    exact solvable.term_ne (Option.some_inj.mp (hn.symm.trans hzero))
  · rw [hrate]
    rintro _ ⟨⟩
    exact solvable.rate_eq_zero_or
  · rw [hrate, hn]
    rintro _ ⟨⟩ _ ⟨⟩
    exact solvable.grows

theorem exists_solve_askInstead (config : SolverConfig K) (valid : p.Valid) (answers : s.Answers p)
    (solvable : s.Solvable) (hunknown : p.solveFor ∈ Quantity.amounts) (hq : q ∈ Quantity.amounts)
    (hne : q ≠ p.solveFor) :
    ∃ s', config.solve (p.askInstead s q) = .ok s' ∧
      (p.get? q = some s'.value ↔
        (p.solveFor ≠ .payment ∧ q ≠ .payment) ∨
          ¬ OppositeSigns s.presentValue s.futureValue) := by
  obtain ⟨s', hs', answers'⟩ := exists_answer_askInstead config valid answers solvable hq
  have valid' := Problem.askInstead_valid valid answers hq solvable.rate_gt
  obtain ⟨x, hx⟩ := valid.given q hne
  refine ⟨s', hs', ?_⟩
  rw [← Problem.sameReading_iff valid answers valid' hunknown hq hne,
    ← answers.value_askInstead_iff valid answers' hq solvable, hx, answers.given q x hx,
    Option.some_inj]
  exact eq_comm

end SolverConfig

namespace Annuity

theorem grows_real {rate : ℝ} (hrate : -1 < rate) (n : ℝ) : Grows rate n := by
  have hbase : 0 < 1 + rate := neg_lt_iff_pos_add'.mp hrate
  refine ⟨Elementary.pow_real_pos hbase n, ?_⟩
  show Elementary.pow (1 + rate) n = 1 ↔ _
  rw [Elementary.pow_real_eq_one_iff hbase, add_eq_left]

end Annuity

namespace SolverConfig

/-- A solution asked back for another amount has an answer, and the answer is the amount that was
given, unless the payment is one of the two unknowns and present and future value have opposite
signs. -/
theorem solve_askInstead (config : SolverConfig ℝ) (p : Problem ℝ) (s : Solution ℝ) (q : Quantity)
    (hvalid : p.validate = .ok ()) (hn : p.numberOfPeriods ≠ some 0)
    (hrate : ∀ rate ∈ p.ratePerPeriod, rate = 0 ∨ 1e-12 ≤ |rate|)
    (hunknown : p.solveFor ∈ Quantity.amounts) (hs : config.solve p = .ok s)
    (hq : q ∈ Quantity.amounts) (hne : q ≠ p.solveFor) :
    ∃ s', config.solve (p.askInstead s q) = .ok s' ∧
      (p.get? q = some s'.value ↔
        (p.solveFor ≠ .payment ∧ q ≠ .payment) ∨
          ¬ OppositeSigns s.presentValue s.futureValue) := by
  have valid := Problem.validate_eq_ok_iff.mp hvalid
  have hgrows (rate : ℝ) (hr : rate ∈ p.ratePerPeriod) (n : ℝ) (_ : n ∈ p.numberOfPeriods) :
      Grows rate n := grows_real (valid.rate_gt rate hr) n
  obtain ⟨answers, solvable⟩ := answers_of_solve_eq_ok config valid hn hrate hgrows hunknown hs
  exact exists_solve_askInstead config valid answers solvable hunknown hq hne

/-- A hundred doubled in a quarter of a period. -/
noncomputable def doubling : Problem ℝ :=
  { Problem.solvingFor .payment with
    presentValue := some 100, futureValue := some 200, ratePerPeriod := some (1 / 20),
    numberOfPeriods := some (1 / 4), timing := .due }

theorem doubling_valid : doubling.Valid where
  unknown := rfl
  given q hq := by
    cases q with
    | payment => exact absurd rfl hq
    | presentValue => exact ⟨_, rfl⟩
    | futureValue => exact ⟨_, rfl⟩
    | ratePerPeriod => exact ⟨_, rfl⟩
    | numberOfPeriods => exact ⟨_, rfl⟩
  rate_gt := by
    rintro _ ⟨⟩
    norm_num
  periodsPerYear_pos := one_pos

theorem solve_askInstead_doubling :
    doubling.validate = .ok () ∧ ∃ s s', standard.solve doubling = .ok s ∧
      standard.solve (doubling.askInstead s .presentValue) = .ok s' ∧ s'.value = 100 := by
  have hvalid : doubling.validate = .ok () := Problem.validate_eq_ok_iff.mpr doubling_valid
  have hn : doubling.numberOfPeriods ≠ some 0 := by
    show some (1 / 4 : ℝ) ≠ some 0
    norm_num
  have hrate : ∀ rate ∈ doubling.ratePerPeriod, rate = 0 ∨ 1e-12 ≤ |rate| := by
    rintro _ ⟨⟩
    norm_num [abs_of_pos]
  have hunknown : doubling.solveFor ∈ Quantity.amounts := by decide
  obtain ⟨s, hs, answers⟩ := exists_solution standard doubling_valid hunknown (fun _ => hn) hrate
    fun rate hr n _ => grows_real (doubling_valid.rate_gt rate hr) n
  obtain ⟨s', hs', hback⟩ := solve_askInstead standard doubling s .presentValue hvalid hn hrate
    hunknown hs (by decide) (by decide)
  have hpv : s.presentValue = 100 := answers.given .presentValue 100 rfl
  have hfv : s.futureValue = 200 := answers.given .futureValue 200 rfl
  have hsigns : ¬ OppositeSigns s.presentValue s.futureValue := by
    rw [hpv, hfv]
    norm_num [OppositeSigns]
  exact ⟨hvalid, s, s', hs, hs', (Option.some_inj.mp (hback.mpr (.inr hsigns))).symm⟩

/-- A thousand from which two hundred is paid out in each of ten periods, at no interest. -/
def drawdown : Problem ℚ :=
  { Problem.solvingFor .futureValue with
    presentValue := some 1000, payment := some (-200), ratePerPeriod := some 0,
    numberOfPeriods := some 10 }

/-- A thousand is owed in the end. Given as such it turns the problem into one of signed cash flows,
where nothing has to be paid in between. -/
theorem solve_askInstead_drawdown :
    drawdown.validate = .ok () ∧ drawdown.payment = some (-200) ∧ ∃ s s',
      standard.solve drawdown = .ok s ∧ s.value = -1000 ∧
      standard.solve (drawdown.askInstead s .payment) = .ok s' ∧ s'.value = 0 := by
  have hvalid : drawdown.Valid := by
    rw [Problem.valid_iff]
    decide +kernel
  have hvalue : (standard.solve drawdown).toOption.map Solution.value = some (-1000) := by
    decide +kernel
  have hback : ((standard.solve drawdown).bind fun s =>
      standard.solve (drawdown.askInstead s .payment)).toOption.map Solution.value = some 0 := by
    decide +kernel
  obtain ⟨s, hs, hminus⟩ := Answer.exists_eq_ok_of_map hvalue
  rw [hs] at hback
  obtain ⟨s', hs', hzero⟩ := Answer.exists_eq_ok_of_map hback
  exact ⟨Problem.validate_eq_ok_iff.mpr hvalid, rfl, s, s', hs, hminus, hs', hzero⟩

end SolverConfig

end Reckoner
