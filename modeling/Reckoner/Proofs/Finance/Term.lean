import Mathlib.Analysis.SpecialFunctions.Log.Base
import Reckoner.Proofs.Exact.Extended
import Reckoner.Proofs.Exact.Real
import Reckoner.Proofs.Finance.Balance

/-!
# The number of periods

The annuity equation solved for its exponent, over the reals, with quotients by zero non-finite. The
count that is found is the only one not below zero that satisfies the equation, and where there is none
or more than one the problem is refused. One kind of problem with a solution is refused as well: a
negative present value with no payments.
-/

namespace Reckoner.Annuity

open Extended Real

variable {pv fv pmt rate n : ℝ} {timing : Timing}

/-- Growth and payments over `n` periods, not necessarily whole, lead from `pv` to `fv`. -/
structure IsTerm (pv fv pmt rate : ℝ) (timing : Timing) (n : ℝ) : Prop where
  nonneg : 0 ≤ n
  balances : fv = pv * compoundFactor rate n + pmt * unitAnnuity rate n * timing.factor rate

def IsOnlyTerm (pv fv pmt rate : ℝ) (timing : Timing) (n : ℝ) : Prop :=
  IsTerm pv fv pmt rate timing n ∧ ∀ m, IsTerm pv fv pmt rate timing m → m = n

/-- The balance whose interest is the payment of each period. -/
noncomputable def perpetuity (pmt rate : ℝ) (timing : Timing) : ℝ := pmt * timing.factor rate / rate

/-! ## Terms -/

theorem isTerm_zeroRate_iff : IsTerm pv fv pmt 0 timing n ↔ 0 ≤ n ∧ fv - pv = pmt * n := by
  have hgrowth : compoundFactor (0 : ℝ) n = 1 := by
    show ((1 : ℝ) + 0) ^ n = 1
    rw [add_zero, one_rpow]
  have hunit : unitAnnuity (0 : ℝ) n = n := if_pos rfl
  have hfactor : timing.factor (0 : ℝ) = 1 := by
    cases timing with
    | ordinary => rfl
    | due => exact add_zero 1
  constructor
  · rintro ⟨hn, h⟩
    rw [hgrowth, hunit, hfactor] at h
    exact ⟨hn, by linarith⟩
  · rintro ⟨hn, h⟩
    refine ⟨hn, ?_⟩
    rw [hgrowth, hunit, hfactor]
    linarith

/-- Payments are the interest on that balance, so with it added only growth is left. -/
theorem isTerm_iff (hrate : rate ≠ 0) : IsTerm pv fv pmt rate timing n ↔
    0 ≤ n ∧ fv + perpetuity pmt rate timing =
      compoundFactor rate n * (pv + perpetuity pmt rate timing) := by
  have hunit : unitAnnuity rate n = (compoundFactor rate n - 1) / rate := if_neg hrate
  have hpaid : pmt * unitAnnuity rate n * timing.factor rate =
      perpetuity pmt rate timing * (compoundFactor rate n - 1) := by
    rw [hunit, perpetuity]
    ring
  constructor
  · rintro ⟨hn, h⟩
    exact ⟨hn, by linarith⟩
  · rintro ⟨hn, h⟩
    exact ⟨hn, by linarith⟩

/-- Where one term makes every number of periods a term, none is the only one. -/
theorem not_isOnlyTerm (h : IsTerm pv fv pmt rate timing n → ∀ m, 0 ≤ m →
    IsTerm pv fv pmt rate timing m) : ¬ IsOnlyTerm pv fv pmt rate timing n := by
  rintro ⟨term, hunique⟩
  have hlater := hunique (n + 1) (h term _ (add_nonneg term.nonneg zero_le_one))
  linarith

theorem isOnlyTerm_iff {x : ℝ} (h : ∀ m, IsTerm pv fv pmt rate timing m ↔ 0 ≤ m ∧ m = x) :
    IsOnlyTerm pv fv pmt rate timing n ↔ 0 ≤ n ∧ n = x := by
  constructor
  · intro only
    exact (h n).mp only.1
  · intro hn
    exact ⟨(h n).mpr hn, fun m term => ((h m).mp term).2.trans hn.2.symm⟩

/-- What never grows is the same after any number of periods. -/
theorem not_isOnlyTerm_of_constant (hrate : rate ≠ 0)
    (hconstant : pv + perpetuity pmt rate timing = 0) : ¬ IsOnlyTerm pv fv pmt rate timing n := by
  refine not_isOnlyTerm fun term m hm => ?_
  rw [isTerm_iff hrate, hconstant, mul_zero] at term ⊢
  exact ⟨hm, term.2⟩

/-- What grows has to grow by one ratio. -/
theorem isTerm_iff_ratio (hrate : rate ≠ 0) (hgrows : pv + perpetuity pmt rate timing ≠ 0) :
    IsTerm pv fv pmt rate timing n ↔ 0 ≤ n ∧ compoundFactor rate n =
      (fv + perpetuity pmt rate timing) / (pv + perpetuity pmt rate timing) := by
  rw [isTerm_iff hrate, eq_div_iff hgrows, eq_comm (b := compoundFactor rate n * _)]

theorem compoundFactor_eq_iff {ratio : ℝ} (hrate_gt : -1 < rate) (hrate : rate ≠ 0)
    (hratio : 0 < ratio) : compoundFactor rate n = ratio ↔ n = log ratio / log (1 + rate) := by
  have hbase : 0 < 1 + rate := neg_lt_iff_pos_add'.mp hrate_gt
  have hbase_ne : 1 + rate ≠ 1 := by simpa using hrate
  show (1 + rate) ^ n = ratio ↔ _
  rw [← logb_eq_iff_rpow_eq hbase hbase_ne hratio, eq_comm]
  rfl

theorem isOnlyTerm_iff_log {ratio : ℝ} (hrate_gt : -1 < rate) (hrate : rate ≠ 0)
    (hgrows : pv + perpetuity pmt rate timing ≠ 0)
    (heq : (fv + perpetuity pmt rate timing) / (pv + perpetuity pmt rate timing) = ratio)
    (hratio : 0 < ratio) :
    IsOnlyTerm pv fv pmt rate timing n ↔ 0 ≤ n ∧ n = log ratio / log (1 + rate) := by
  apply isOnlyTerm_iff
  intro m
  rw [isTerm_iff_ratio hrate hgrows, heq, compoundFactor_eq_iff hrate_gt hrate hratio]

theorem not_isTerm_of_ratio (hrate_gt : -1 < rate) (hrate : rate ≠ 0)
    (hgrows : pv + perpetuity pmt rate timing ≠ 0)
    (hratio : ¬ 0 < (fv + perpetuity pmt rate timing) / (pv + perpetuity pmt rate timing)) :
    ¬ IsTerm pv fv pmt rate timing n := by
  intro term
  rw [← ((isTerm_iff_ratio hrate hgrows).mp term).2] at hratio
  exact hratio (Elementary.pow_real_pos (neg_lt_iff_pos_add'.mp hrate_gt) n)

/-! ## What is found -/

/-- What is found before it is checked: a count that is the only term unless it is negative, or nothing
where no term is the only one. -/
inductive Finds (pv fv pmt rate : ℝ) (timing : Timing) :
    Answer (Extended ℝ) (Extended ℝ) → Prop where
  | candidate {x : ℝ} (h : ∀ n, IsOnlyTerm pv fv pmt rate timing n ↔ 0 ≤ n ∧ n = x) :
      Finds pv fv pmt rate timing (.ok (finite x))
  | refused (why : Unsolvable (Extended ℝ)) (h : ∀ n, ¬ IsOnlyTerm pv fv pmt rate timing n) :
      Finds pv fv pmt rate timing (Cause.unsolvable why).throw

theorem isZeroRate_finite (rate : ℝ) : isZeroRate (finite rate) = isZeroRate rate := rfl

theorem perpetuity_finite (hrate : rate ≠ 0) (pmt : ℝ) (timing : Timing) :
    finite pmt * timing.factor (finite rate) / finite rate = finite (perpetuity pmt rate timing) := by
  have hfactor : timing.factor (finite rate) = finite (timing.factor rate) := by
    cases timing <;> rfl
  rw [hfactor, finite_mul, finite_div hrate]
  rfl

theorem log_ratio_finite {ratio : ℝ} (hrate_gt : -1 < rate) (hrate : rate ≠ 0) (hratio : 0 < ratio) :
    Scalar.ln (finite ratio) / Scalar.ln (1 + finite rate) =
      finite (log ratio / log (1 + rate)) := by
  have hbase : 0 < 1 + rate := neg_lt_iff_pos_add'.mp hrate_gt
  have hlog : Scalar.ln (1 + rate) ≠ 0 := log_ne_zero_of_pos_of_ne_one hbase (by simpa using hrate)
  rw [← finite_one, finite_add, ln_finite hratio, ln_finite hbase, finite_div hlog]
  rfl

theorem rawPeriods_of_zeroRate (pv fv pmt : ℝ) (timing : Timing) :
    Finds pv fv pmt 0 timing
      (rawPeriods (finite pv) (finite fv) (finite pmt) (finite 0) timing) := by
  have hzero : isZeroRate (0 : ℝ) = true := (isZeroRate_iff (.inl rfl)).mpr rfl
  unfold rawPeriods
  rw [isZeroRate_finite, if_pos hzero]
  by_cases hpmt : pmt = 0
  · rw [if_pos (by simpa using hpmt)]
    refine .refused _ fun n => not_isOnlyTerm fun term m hm => ?_
    rw [isTerm_zeroRate_iff, hpmt, zero_mul] at term ⊢
    exact ⟨hm, term.2⟩
  · rw [if_neg (by simpa using hpmt), finite_sub, finite_div hpmt]
    refine .candidate fun n => isOnlyTerm_iff fun m => ?_
    rw [isTerm_zeroRate_iff, eq_div_iff hpmt, mul_comm m, eq_comm (a := pmt * m)]

theorem rawPeriods_of_growth (hrate_gt : -1 < rate) (hrate : rate ≠ 0) (hrate_ge : 1e-12 ≤ |rate|)
    (hpayments : ¬ (pmt = 0 ∧ pv < 0)) (fv : ℝ) (timing : Timing) :
    Finds pv fv pmt rate timing
      (rawPeriods (finite pv) (finite fv) (finite pmt) (finite rate) timing) := by
  have hzero : ¬ isZeroRate rate = true := (isZeroRate_iff (.inr hrate_ge)).not.mpr hrate
  unfold rawPeriods
  rw [isZeroRate_finite, if_neg hzero]
  by_cases hpresent : pmt = 0 ∧ pv ≤ 0
  · -- Without payments a present value that is neither positive nor negative never grows.
    have hpv : pv = 0 := le_antisymm hpresent.2 (not_lt.mp fun h => hpayments ⟨hpresent.1, h⟩)
    have hconstant : pv + perpetuity pmt rate timing = 0 := by
      rw [hpv, hpresent.1, perpetuity, zero_mul, zero_div, add_zero]
    rw [if_pos (by simpa using hpresent)]
    exact .refused _ fun n => not_isOnlyTerm_of_constant hrate hconstant
  rw [if_neg (by simpa using hpresent)]
  dsimp only
  rw [perpetuity_finite hrate, finite_add, finite_add]
  by_cases hconstant : pv + perpetuity pmt rate timing = 0
  · rw [hconstant, finite_div_zero, if_neg (by simp)]
    exact .refused _ fun n => not_isOnlyTerm_of_constant hrate hconstant
  rw [finite_div hconstant]
  by_cases hratio : 0 < (fv + perpetuity pmt rate timing) / (pv + perpetuity pmt rate timing)
  · rw [if_pos (by simpa using hratio), log_ratio_finite hrate_gt hrate hratio]
    exact .candidate fun n => isOnlyTerm_iff_log hrate_gt hrate hconstant rfl hratio
  · rw [if_neg (by simpa using hratio)]
    exact .refused _ fun n only => not_isTerm_of_ratio hrate_gt hrate hconstant hratio only.1

/-! ## What is returned -/

theorem numberOfPeriods_of_finds
    (found : Finds pv fv pmt rate timing
      (rawPeriods (finite pv) (finite fv) (finite pmt) (finite rate) timing)) :
    (∀ y, numberOfPeriods (finite pv) (finite fv) (finite pmt) (finite rate) timing = .ok y ↔
      ∃ n, y = finite n ∧ IsOnlyTerm pv fv pmt rate timing n) ∧
    ((∀ n, ¬ IsOnlyTerm pv fv pmt rate timing n) → ∃ why,
      numberOfPeriods (finite pv) (finite fv) (finite pmt) (finite rate) timing =
        (Cause.unsolvable why).throw) := by
  unfold numberOfPeriods
  generalize rawPeriods (finite pv) (finite fv) (finite pmt) (finite rate) timing = raw at found ⊢
  cases found with
  | @candidate x h =>
    dsimp only
    by_cases hx : x < 0
    · rw [if_pos (by simpa using hx)]
      refine ⟨fun y => ⟨nofun, ?_⟩, fun _ => ⟨_, rfl⟩⟩
      rintro ⟨n, -, only⟩
      obtain ⟨hn, rfl⟩ := (h n).mp only
      exact absurd hx hn.not_gt
    · rw [if_neg (by simpa using hx)]
      have only := (h x).mpr ⟨not_lt.mp hx, rfl⟩
      refine ⟨fun y => ⟨?_, ?_⟩, fun hnone => absurd only (hnone x)⟩
      · rintro ⟨⟩
        exact ⟨x, rfl, only⟩
      · rintro ⟨n, rfl, only'⟩
        rw [((h n).mp only').2]
  | refused why hnone =>
    refine ⟨fun y => ⟨nofun, ?_⟩, fun _ => ⟨why, rfl⟩⟩
    rintro ⟨n, -, only⟩
    exact absurd only (hnone n)

theorem numberOfPeriods_of_negative (hpmt : pmt = 0) (hpv : pv < 0) (hrate : rate ≠ 0)
    (hrate_ge : 1e-12 ≤ |rate|) (fv : ℝ) (timing : Timing) :
    numberOfPeriods (finite pv) (finite fv) (finite pmt) (finite rate) timing =
      (Cause.unsolvable .presentValueSign).throw := by
  have hzero : ¬ isZeroRate rate = true := (isZeroRate_iff (.inr hrate_ge)).not.mpr hrate
  unfold numberOfPeriods rawPeriods
  rw [isZeroRate_finite, if_neg hzero, if_pos (by simpa using And.intro hpmt hpv.le)]
  rfl

/-- A number of periods is found exactly when it is the only one, and otherwise the problem is
unsolvable, as it is whenever there are no payments and the present value is negative. -/
theorem numberOfPeriods_finds_onlyTerm (hrate_gt : -1 < rate) (hrate : rate = 0 ∨ 1e-12 ≤ |rate|)
    (pv fv pmt : ℝ) (timing : Timing) :
    (¬ (pmt = 0 ∧ pv < 0 ∧ rate ≠ 0) →
      (∀ y, numberOfPeriods (finite pv) (finite fv) (finite pmt) (finite rate) timing = .ok y ↔
        ∃ n, y = finite n ∧ IsOnlyTerm pv fv pmt rate timing n) ∧
      ((∀ n, ¬ IsOnlyTerm pv fv pmt rate timing n) → ∃ why,
        numberOfPeriods (finite pv) (finite fv) (finite pmt) (finite rate) timing =
          (Cause.unsolvable why).throw)) ∧
    (pmt = 0 ∧ pv < 0 ∧ rate ≠ 0 → ∃ why,
      numberOfPeriods (finite pv) (finite fv) (finite pmt) (finite rate) timing =
        (Cause.unsolvable why).throw) := by
  constructor
  · intro hpayments
    apply numberOfPeriods_of_finds
    by_cases hzero : rate = 0
    · rw [hzero]
      exact rawPeriods_of_zeroRate pv fv pmt timing
    · have hpayments : ¬ (pmt = 0 ∧ pv < 0) := fun h => hpayments ⟨h.1, h.2, hzero⟩
      exact rawPeriods_of_growth hrate_gt hzero (hrate.resolve_left hzero) hpayments fv timing
  · rintro ⟨hpmt, hpv, hnonzero⟩
    exact ⟨_, numberOfPeriods_of_negative hpmt hpv hnonzero (hrate.resolve_left hnonzero) fv timing⟩

/-- A balance that halves in each period while it is paid into, one held by its interest alone, and a
debt that doubles with no payments. -/
theorem numberOfPeriods_finds_onlyTerm_threeBalances :
    (-1 < (-1 / 2 : ℝ) ∧ (1e-12 : ℝ) ≤ |-1 / 2| ∧
      numberOfPeriods (finite 100) (finite 55) (finite 10) (finite (-1 / 2)) .due =
        .ok (finite (1 : ℝ))) ∧
    (∃ why, numberOfPeriods (finite 100) (finite 100) (finite (-5)) (finite (1 / 20 : ℝ)) .ordinary =
      (Cause.unsolvable why).throw) ∧
    IsOnlyTerm (-1) (-2) 0 1 .ordinary 1 ∧
    ∃ why, numberOfPeriods (finite (-1)) (finite (-2)) (finite 0) (finite (1 : ℝ)) .ordinary =
      (Cause.unsolvable why).throw := by
  have hhalving : (1e-12 : ℝ) ≤ |-1 / 2| := by
    rw [abs_of_neg] <;> norm_num
  have htwentieth : (1e-12 : ℝ) ≤ |1 / 20| := by
    rw [abs_of_pos] <;> norm_num
  have hdoubling : (1e-12 : ℝ) ≤ |1| := by
    rw [abs_one]
    norm_num
  have hpaid : perpetuity 10 (-1 / 2) .due = -10 := by
    rw [perpetuity, Timing.factor]
    norm_num
  have hheld : (100 : ℝ) + perpetuity (-5) (1 / 20) .ordinary = 0 := by
    rw [perpetuity, Timing.factor]
    norm_num
  have hunpaid : perpetuity 0 1 .ordinary = 0 := by
    rw [perpetuity, zero_mul, zero_div]
  refine ⟨⟨by norm_num, hhalving, ?_⟩, ?_, ?_, ?_⟩
  · have found := (numberOfPeriods_finds_onlyTerm (by norm_num) (.inr hhalving) 100 55 10 .due).1
      (by norm_num)
    have honly : IsOnlyTerm 100 55 10 (-1 / 2) .due 1 := by
      have hbase : (1 : ℝ) + -1 / 2 = 1 / 2 := by norm_num
      have hratio : (55 + perpetuity 10 (-1 / 2) .due) / (100 + perpetuity 10 (-1 / 2) .due) =
          1 / 2 := by
        rw [hpaid]
        norm_num
      refine (isOnlyTerm_iff_log (by norm_num) (by norm_num) ?_ hratio one_half_pos).mpr ?_
      · rw [hpaid]
        norm_num
      · rw [hbase, div_self (log_ne_zero_of_pos_of_ne_one _ _)] <;> norm_num
    exact (found.1 _).mpr ⟨1, rfl, honly⟩
  · have found := (numberOfPeriods_finds_onlyTerm (by norm_num) (.inr htwentieth) 100 100 (-5)
      .ordinary).1 (by norm_num)
    exact found.2 fun n => not_isOnlyTerm_of_constant (by norm_num) hheld
  · have hratio : (-2 + perpetuity 0 1 .ordinary) / (-1 + perpetuity 0 1 .ordinary) = 2 := by
      rw [hunpaid]
      norm_num
    refine (isOnlyTerm_iff_log (by norm_num) one_ne_zero ?_ hratio two_pos).mpr ?_
    · rw [hunpaid]
      norm_num
    · rw [one_add_one_eq_two, div_self (log_ne_zero_of_pos_of_ne_one _ _)] <;> norm_num
  · exact (numberOfPeriods_finds_onlyTerm (by norm_num) (.inr hdoubling) (-1) (-2) 0 .ordinary).2
      ⟨rfl, by norm_num, one_ne_zero⟩

end Reckoner.Annuity
