import Mathlib.Algebra.BigOperators.Intervals
import Mathlib.Tactic.LinearCombination
import Reckoner.Proofs.Exact
import Reckoner.Proofs.Meaning.Agreement

/-!
# The rule of integration

In exact arithmetic the weighted sum of the samples is a sum over panels of two intervals each, with
weights one, four and one: the end that two panels share is counted twice. A cubic is integrated
without error over every panel, and so over all of them. From the upper bound to the lower one the same
points are sampled in the opposite order, with the same weights and the negated step.
-/

namespace Reckoner

theorem Answer.mapM_ok {α β γ : Type} (g : β → γ) (xs : List β) :
    xs.mapM (fun x => (.ok (g x) : Answer α γ)) = .ok (xs.map g) := List.mapM_pure

/-- Computations all answer one after another when each of them answers. -/
theorem Answer.mapM_eq_ok_iff {α β γ : Type} {run : β → Answer α γ} {xs : List β} {ys : List γ} :
    xs.mapM run = .ok ys ↔ xs.map run = ys.map .ok := by
  induction xs generalizing ys with
  | nil => cases ys <;> simp [pure, Except.pure]
  | cons x rest ih =>
    rw [List.mapM_cons]
    cases ys with
    | nil => cases run x <;> cases rest.mapM run <;> simp [bind, Except.bind, pure, Except.pure]
    | cons y ys =>
      rw [List.map_cons, List.map_cons, List.cons.injEq, ← ih]
      cases run x <;> cases rest.mapM run <;> simp [bind, Except.bind, pure, Except.pure]

namespace Simpson

/-- A function that never fails is sampled at every point. -/
theorem quadrature_of_values {α : Type} [Scalar α] {f : α → Answer α α} {g : α → α}
    (h : ∀ t, f t = .ok (g t)) (lo hi : α) :
    quadrature f lo hi = .ok (weightedTotal ((List.range (integrationIntervals + 1)).map
      fun (i : Nat) => g (lo + (hi - lo) / (integrationIntervals : α) * (i : α))) *
        ((hi - lo) / (integrationIntervals : α)) / ((3 : Nat) : α)) := by
  rw [quadrature, funext h, Answer.mapM_ok]
  rfl

variable {K : Type} [Elementary K] [Field K] [LinearOrder K] [FloorRing K]

theorem weightedTotal_eq_sum (y : ℕ → K) :
    weightedTotal ((List.range (integrationIntervals + 1)).map y) =
      ∑ i ∈ Finset.range (integrationIntervals + 1), weight i * y i := by
  rw [weightedTotal, List.zipWith_map_right, List.zipWith_self, ← List.sum_eq_foldl]
  rfl

theorem weight_zero : (weight 0 : K) = 1 := if_pos (.inl rfl)

theorem weight_last : (weight integrationIntervals : K) = 1 := if_pos (.inr rfl)

theorem weight_odd {k : ℕ} (hk : 2 * k + 1 < integrationIntervals) : (weight (2 * k + 1) : K) = 4 := by
  unfold weight
  rw [if_neg (by omega), if_pos (by omega), Nat.cast_ofNat]

theorem weight_even {k : ℕ} (hk : 2 * (k + 1) < integrationIntervals) :
    (weight (2 * (k + 1)) : K) = 2 := by
  unfold weight
  rw [if_neg (by omega), if_neg (by omega), Nat.cast_ofNat]

/-- The rule gives the change of `total` over two neighbouring intervals of every width. -/
def IsExactFor (g total : K → K) : Prop :=
  ∀ x h, (g x + ((4 : ℕ) : K) * g (x + h) + g (x + h + h)) * h / ((3 : ℕ) : K) =
    total (x + h + h) - total x

theorem isExactFor_iff {g total : K → K} : IsExactFor g total ↔
    ∀ x h, (g x + 4 * g (x + h) + g (x + h + h)) * h / 3 = total (x + h + h) - total x := by
  rw [IsExactFor, Nat.cast_ofNat, Nat.cast_ofNat]

/-- The weighted samples up to the end of a panel, where that end still counts once. -/
def sumToPanel (y : ℕ → K) (k : ℕ) : K :=
  ∑ i ∈ Finset.range (2 * k), weight i * y i + y (2 * k)

variable {y : ℕ → K}

theorem sumToPanel_one : sumToPanel y 1 = y 0 + 4 * y 1 + y 2 := by
  have hodd : (weight 1 : K) = 4 := weight_odd (k := 0) (by decide)
  rw [sumToPanel, Finset.sum_range_succ, Finset.sum_range_one, weight_zero, hodd, one_mul]

/-- The end of the last panel is the start of the next. -/
theorem sumToPanel_succ {k : ℕ} (hk : 2 * (k + 1) < integrationIntervals) :
    sumToPanel y (k + 2) =
      sumToPanel y (k + 1) + (y (2 * (k + 1)) + 4 * y (2 * (k + 1) + 1) + y (2 * (k + 2))) := by
  have hlast : 2 * (k + 1) + 1 < integrationIntervals := by
    have : integrationIntervals % 2 = 0 := rfl
    omega
  rw [sumToPanel, show 2 * (k + 2) = 2 * (k + 1) + 1 + 1 by ring, Finset.sum_range_succ,
    Finset.sum_range_succ, weight_odd hlast, weight_even hk, sumToPanel]
  ring

theorem weightedTotal_eq_sumToPanel (y : ℕ → K) :
    weightedTotal ((List.range (integrationIntervals + 1)).map y) = sumToPanel y 500 := by
  rw [weightedTotal_eq_sum, Finset.sum_range_succ, weight_last, one_mul]
  rfl

/-- The panels up to any one give the change of the whole over them. -/
theorem sumToPanel_exact {g total : K → K} (hexact : IsExactFor g total) (lo h : K) (k : ℕ)
    (hk : 2 * k < integrationIntervals) :
    sumToPanel (fun i => g (lo + h * (i : K))) (k + 1) * h / 3 =
      total (lo + h * ((2 * (k + 1) : ℕ) : K)) - total lo := by
  induction k with
  | zero =>
    have hstart : lo + h * ((0 : ℕ) : K) = lo := by rw [Nat.cast_zero, mul_zero, add_zero]
    have hmiddle : lo + h * ((1 : ℕ) : K) = lo + h := by rw [Nat.cast_one, mul_one]
    have hend : lo + h * ((2 : ℕ) : K) = lo + h + h := by rw [Nat.cast_ofNat, mul_two, add_assoc]
    rw [sumToPanel_one]
    simp only [hstart, hmiddle, hend, zero_add, mul_one]
    exact isExactFor_iff.mp hexact lo h
  | succ k ih =>
    have hpanel := isExactFor_iff.mp hexact (lo + h * ((2 * (k + 1) : ℕ) : K)) h
    have hmiddle : lo + h * ((2 * (k + 1) : ℕ) : K) + h = lo + h * ((2 * (k + 1) + 1 : ℕ) : K) := by
      push_cast
      ring
    have hend : lo + h * ((2 * (k + 1) + 1 : ℕ) : K) + h = lo + h * ((2 * (k + 2) : ℕ) : K) := by
      push_cast
      ring
    rw [hmiddle, hend] at hpanel
    rw [sumToPanel_succ hk]
    linear_combination ih (by omega) + hpanel

/-- Where the rule is exact over every panel, it is exact over all of them. -/
theorem quadrature_exact [IsStrictOrderedRing K] {f : K → Answer K K} {g total : K → K}
    (h : ∀ t, f t = .ok (g t)) (hexact : IsExactFor g total) (lo hi : K) :
    quadrature f lo hi = .ok (total hi - total lo) := by
  have hintervals : ((integrationIntervals : ℕ) : K) ≠ 0 := Nat.cast_ne_zero.mpr (by decide)
  have hend : lo + (hi - lo) / (integrationIntervals : K) * ((2 * (499 + 1) : ℕ) : K) = hi := by
    show lo + (hi - lo) / (integrationIntervals : K) * (integrationIntervals : K) = hi
    rw [div_mul_cancel₀ _ hintervals, add_sub_cancel]
  have hpanels := sumToPanel_exact hexact lo ((hi - lo) / (integrationIntervals : K)) 499 (by decide)
  rw [hend] at hpanels
  rw [quadrature_of_values h, weightedTotal_eq_sumToPanel, ← hpanels, Nat.cast_ofNat]

theorem cubic_isExact [IsStrictOrderedRing K] (c₀ c₁ c₂ c₃ : K) :
    IsExactFor (fun t => c₀ + c₁ * t + c₂ * t ^ 2 + c₃ * t ^ 3)
      fun t => c₀ * t + c₁ * t ^ 2 / 2 + c₂ * t ^ 3 / 3 + c₃ * t ^ 4 / 4 := by
  rw [isExactFor_iff]
  intro x h
  ring

/-! ## Exchanged bounds -/

theorem weight_mirror {α : Type} [Scalar α] {i : ℕ} (hi : i ≤ integrationIntervals) :
    (weight (integrationIntervals - i) : α) = weight i := by
  have heven : integrationIntervals % 2 = 0 := rfl
  have hends : integrationIntervals - i = 0 ∨ integrationIntervals - i = integrationIntervals ↔
      i = 0 ∨ i = integrationIntervals := by omega
  have hodd : (integrationIntervals - i) % 2 = 1 ↔ i % 2 = 1 := by omega
  simp only [weight, hends, hodd]

/-- What is sampled from the last index to the first. -/
theorem map_range_mirror {β : Type} (g : ℕ → β) (n : ℕ) :
    ((List.range (n + 1)).map fun i => g (n - i)) = ((List.range (n + 1)).map g).reverse := by
  rw [← List.map_reverse, List.range_eq_range', List.reverse_range', List.map_map,
    ← List.range_eq_range']
  refine List.map_congr_left fun i _ => ?_
  rw [Function.comp_apply, zero_add, Nat.add_sub_cancel]

/-- The weights read the same from both ends. -/
theorem weightedTotal_reverse {samples : List K} (hlength : samples.length = integrationIntervals + 1) :
    weightedTotal samples.reverse = weightedTotal samples := by
  let weights : List K := (List.range (integrationIntervals + 1)).map weight
  have htotal (ys : List K) : weightedTotal ys = (List.zipWith (· * ·) weights ys).sum := by
    rw [weightedTotal, ← List.sum_eq_foldl, List.zipWith_map_left]
  have hweights : weights.reverse = weights := by
    rw [← map_range_mirror]
    refine List.map_congr_left fun i hi => weight_mirror ?_
    exact Nat.lt_succ_iff.mp (List.mem_range.mp hi)
  have hsame : weights.length = samples.length := by rw [List.length_map, List.length_range, hlength]
  calc weightedTotal samples.reverse
      = (List.zipWith (· * ·) weights.reverse samples.reverse).sum := by rw [hweights, htotal]
    _ = (List.zipWith (· * ·) weights samples).sum := by
        rw [← List.reverse_zipWith hsame, List.sum_reverse]
    _ = weightedTotal samples := (htotal samples).symm

/-- An integral has a value when all samples have, and then it is their weighted sum. -/
theorem quadrature_eq_ok_iff {α : Type} [Scalar α] {f : α → Answer α α} {lo hi x : α} :
    quadrature f lo hi = .ok x ↔ ∃ samples : List α,
      ((List.range (integrationIntervals + 1)).map fun (i : Nat) =>
        f (lo + (hi - lo) / (integrationIntervals : α) * (i : α))) = samples.map .ok ∧
      x = weightedTotal samples * ((hi - lo) / (integrationIntervals : α)) / ((3 : Nat) : α) := by
  simp only [← Answer.mapM_eq_ok_iff, quadrature]
  cases (List.range (integrationIntervals + 1)).mapM fun (i : Nat) =>
      f (lo + (hi - lo) / (integrationIntervals : α) * (i : α)) with
  | error failure => simp [bind, Except.bind]
  | ok samples => simp [bind, Except.bind, pure, Except.pure, eq_comm]

/-- From the other end the same points are met in the opposite order. -/
theorem point_mirror [IsStrictOrderedRing K] (lo hi : K) {i : ℕ} (hi' : i ≤ integrationIntervals) :
    hi + (lo - hi) / (integrationIntervals : K) * (i : K) =
      lo + (hi - lo) / (integrationIntervals : K) * ((integrationIntervals - i : ℕ) : K) := by
  have hintervals : ((integrationIntervals : ℕ) : K) ≠ 0 := Nat.cast_ne_zero.mpr (by decide)
  rw [Nat.cast_sub hi']
  field_simp
  ring

theorem quadrature_reversed [IsStrictOrderedRing K] {f : K → Answer K K} {lo hi x : K}
    (h : quadrature f lo hi = .ok x) : quadrature f hi lo = .ok (-x) := by
  obtain ⟨samples, hsamples, rfl⟩ := quadrature_eq_ok_iff.mp h
  have hlength : samples.length = integrationIntervals + 1 := by
    simpa using (congrArg List.length hsamples).symm
  refine quadrature_eq_ok_iff.mpr ⟨samples.reverse, ?_, ?_⟩
  · rw [List.map_reverse, ← hsamples, ← map_range_mirror]
    refine List.map_congr_left fun i hi' => congrArg f (point_mirror lo hi ?_)
    exact Nat.lt_succ_iff.mp (List.mem_range.mp hi')
  · rw [weightedTotal_reverse hlength]
    ring

end Simpson

namespace Expr

variable {K : Type} [Elementary K] [Field K] [LinearOrder K] [FloorRing K] [IsStrictOrderedRing K]

/-- The integral of a body that is a cubic in the bound variable is the cubic's own. -/
theorem eval_integral_cubic {registry : Registry K} {name : String}
    (hname : isIntegral registry name = true) {body lower upper : Expr K} {v : String}
    {scope : Scope K} {a b c₀ c₁ c₂ c₃ : K}
    (hbody : ∀ t, (eval registry body (scope.bind v t)).1 =
      .ok (c₀ + c₁ * t + c₂ * t ^ 2 + c₃ * t ^ 3))
    (hlower : (eval registry lower scope).1 = .ok a)
    (hupper : (eval registry upper scope).1 = .ok b) (place offset : ℕ) :
    (eval registry (call name [body, variableRef v place, lower, upper] offset) scope).1 =
      .ok (c₀ * (b - a) + c₁ * (b ^ 2 - a ^ 2) / 2 + c₂ * (b ^ 3 - a ^ 3) / 3 +
        c₃ * (b ^ 4 - a ^ 4) / 4) := by
  have hmeans (e : Expr K) (s : Scope K) : (eval registry e s).1 = meaning registry e s.environment :=
    congrArg Prod.fst (means_eval registry e s)
  have hsample (t : K) : meaning registry body (scope.environment.extend v t) =
      .ok (c₀ + c₁ * t + c₂ * t ^ 2 + c₃ * t ^ 3) := by
    rw [← Scope.environment_bind, ← hmeans]
    exact hbody t
  rw [hmeans] at hlower hupper
  rw [hmeans, meaning_integral hname, hlower, hupper]
  simp only [bind, Except.bind]
  rw [Simpson.quadrature_exact hsample (Simpson.cubic_isExact c₀ c₁ c₂ c₃)]
  congr 1
  ring

/-- From two down to minus one, `x * (x * x) - 5` over a variable that has another value around it. -/
theorem eval_integral_cubic_downward :
    isIntegral (Registry.empty : Registry ℚ) "Integral" = true ∧
      (eval Registry.empty
        (call "Integral" [binary .sub (binary .mul (variableRef "x" 9)
            (binary .mul (variableRef "x" 14) (variableRef "x" 18))) (literal 5), variableRef "x" 26,
          variableRef "x" 29, unary .neg (literal 1)] 0) ⟨.empty, [("x", 2)]⟩).1 =
        .ok (45 / 4 : ℚ) := by
  have hname : isIntegral (Registry.empty : Registry ℚ) "Integral" = true := by decide +kernel
  have hbody (t : ℚ) : (eval Registry.empty (binary .sub (binary .mul (variableRef "x" 9)
      (binary .mul (variableRef "x" 14) (variableRef "x" 18))) (literal 5))
      (Scope.bind ⟨.empty, [("x", 2)]⟩ "x" t)).1 = .ok (-5 + 0 * t + 0 * t ^ 2 + 1 * t ^ 3) := by
    have hcubic : -5 + 0 * t + 0 * t ^ 2 + 1 * t ^ 3 = t * (t * t) - 5 := by ring
    rw [hcubic]
    rfl
  have hlower : (eval Registry.empty (variableRef "x" 29) ⟨.empty, [("x", 2)]⟩).1 = .ok (2 : ℚ) := rfl
  have hupper : (eval Registry.empty (unary .neg (literal 1)) ⟨.empty, [("x", 2)]⟩).1 =
      .ok (-1 : ℚ) := rfl
  refine ⟨hname, (eval_integral_cubic hname hbody hlower hupper 26 0).trans ?_⟩
  norm_num

/-- An integral has a value when both bounds have and all samples of its body. -/
theorem eval_integral_eq_ok_iff {α : Type} [Scalar α] {registry : Registry α} {name : String}
    (hname : isIntegral registry name = true) {body lower upper : Expr α} {v : String}
    {scope : Scope α} {x : α} (place offset : ℕ) :
    (eval registry (call name [body, variableRef v place, lower, upper] offset) scope).1 = .ok x ↔
      ∃ a b, (eval registry lower scope).1 = .ok a ∧ (eval registry upper scope).1 = .ok b ∧
        Simpson.quadrature (fun t => (eval registry body (scope.bind v t)).1) a b = .ok x := by
  have hmeans (e : Expr α) (s : Scope α) : (eval registry e s).1 = meaning registry e s.environment :=
    congrArg Prod.fst (means_eval registry e s)
  simp only [hmeans, Scope.environment_bind, meaning_integral hname]
  cases meaning registry lower scope.environment with
  | error failure => simp [bind, Except.bind]
  | ok a => cases meaning registry upper scope.environment <;> simp [bind, Except.bind]

/-- With its bounds exchanged an integral has the negated value, whatever its body is. -/
theorem eval_integral_reversed {registry : Registry K} {name : String}
    (hname : isIntegral registry name = true) {body lower upper : Expr K} {v : String}
    {scope : Scope K} {place offset : ℕ} {x : K}
    (h : (eval registry (call name [body, variableRef v place, lower, upper] offset) scope).1 = .ok x)
    (place' offset' : ℕ) :
    (eval registry (call name [body, variableRef v place', upper, lower] offset') scope).1 =
      .ok (-x) := by
  obtain ⟨a, b, hlower, hupper, hx⟩ := (eval_integral_eq_ok_iff hname place offset).mp h
  exact (eval_integral_eq_ok_iff hname place' offset').mpr
    ⟨b, a, hupper, hlower, Simpson.quadrature_reversed hx⟩

/-- From zero to three, the integral of the integral of `x` from zero to the `x` around it. -/
theorem eval_integral_reversed_nested :
    let inner : Expr ℚ := call "integral" [variableRef "x" 18, variableRef "x" 21, literal 0,
      variableRef "x" 27] 9
    isIntegral (Registry.empty : Registry ℚ) "integral" = true ∧
      (eval .empty (call "integral" [inner, variableRef "x" 31, literal 0, literal 3] 0)
        (Scope.ofStore .empty)).1 = .ok (9 / 2 : ℚ) ∧
      (eval .empty (call "integral" [inner, variableRef "x" 31, literal 3, literal 0] 0)
        (Scope.ofStore .empty)).1 = .ok (-(9 / 2) : ℚ) := by
  intro inner
  have hname : isIntegral (Registry.empty : Registry ℚ) "integral" = true := by decide +kernel
  have hinner (t : ℚ) : (eval .empty inner (Scope.bind (Scope.ofStore .empty) "x" t)).1 =
      .ok (0 + 0 * t + 1 / 2 * t ^ 2 + 0 * t ^ 3) := by
    refine (eval_integral_eq_ok_iff hname 21 9).mpr ⟨0, t, rfl, rfl, ?_⟩
    have hsample (u : ℚ) : (eval Registry.empty (variableRef "x" 18)
        (Scope.bind (Scope.bind (Scope.ofStore .empty) "x" t) "x" u)).1 =
          .ok (0 + 1 * u + 0 * u ^ 2 + 0 * u ^ 3) := by
      have hlinear : 0 + 1 * u + 0 * u ^ 2 + 0 * u ^ 3 = u := by ring
      rw [hlinear]
      rfl
    rw [Simpson.quadrature_exact hsample (Simpson.cubic_isExact 0 1 0 0)]
    congr 1
    ring
  have houter : (eval .empty (call "integral" [inner, variableRef "x" 31, literal 0, literal 3] 0)
      (Scope.ofStore .empty)).1 = .ok (9 / 2 : ℚ) := by
    refine (eval_integral_eq_ok_iff hname 31 0).mpr ⟨0, 3, rfl, rfl, ?_⟩
    rw [Simpson.quadrature_exact hinner (Simpson.cubic_isExact 0 0 (1 / 2) 0)]
    norm_num
  exact ⟨hname, houter, eval_integral_reversed hname houter 31 0⟩

end Expr

end Reckoner
