import Reckoner.Proofs.RootSearch

/-!
# Searches do not see the sign

A function and its negative have the same zeros, the same steps of Newton's method and the same changes
of sign, so a search on either takes the same course. The sign of zero is where they could part: a
zero counts as positive. No search compares it: a zero ends the search, or is looked for before the
signs are.
-/

namespace Reckoner.RootSearch

open Scalar

variable {K : Type} [Elementary K] [Field K] [LinearOrder K] [FloorRing K]

/-- The one is the negative of the other, with a value at the same points. -/
def IsReflected (f g : K → Option K) : Prop := ∀ x, g x = (f x).map Neg.neg

variable {f g slope slope' : K → Option K} {tolerance : K}

theorem beq_zero_neg (a : K) : (-a == 0) = (a == 0) := by
  show decide (-a = 0) = decide (a = 0)
  simp only [neg_eq_zero]

theorem scalarAbs_neg (a : K) : Scalar.abs (-a) = Scalar.abs a := abs_neg a

theorem newton_reflected (hf : IsReflected f g) (hslope : IsReflected slope slope') (steps : ℕ)
    (x : K) : newton g slope' tolerance steps x = newton f slope tolerance steps x := by
  induction steps generalizing x with
  | zero => rfl
  | succ steps ih =>
    rw [newton, newton, hf x, hslope x]
    cases f x with
    | none => rfl
    | some y =>
      simp only [Option.map_some, scalarAbs_neg]
      congr 1
      cases slope x with
      | none => rfl
      | some dy => simp only [Option.map_some, beq_zero_neg, neg_div_neg_eq, ih]

variable [IsStrictOrderedRing K]

theorem sameSign_neg {a b : K} (ha : a ≠ 0) (hb : b ≠ 0) : sameSign (-a) (-b) = sameSign a b := by
  rw [Bool.eq_iff_iff, sameSign_ofField, sameSign_ofField, neg_lt_zero, neg_lt_zero]
  rcases ha.lt_or_gt with ha | ha <;> rcases hb.lt_or_gt with hb | hb <;>
    simp [ha, hb, ha.not_gt, hb.not_gt]

/-- Two values mark a change of sign or a zero exactly when their negatives do. -/
theorem marks_neg (a b : K) : (-a == 0 || -b == 0 || !sameSign (-a) (-b)) =
    (a == 0 || b == 0 || !sameSign a b) := by
  rw [beq_zero_neg, beq_zero_neg]
  by_cases ha : a = 0
  · simp [ha]
  · by_cases hb : b = 0
    · simp [hb]
    · rw [sameSign_neg ha hb]

theorem firstChange_reflected (points : List (K × K)) :
    firstChange (points.map fun p => (p.1, -p.2)) = firstChange points := by
  induction points with
  | nil => rfl
  | cons p rest ih =>
    cases rest with
    | nil => rfl
    | cons q rest =>
      simp only [List.map_cons] at ih ⊢
      rw [firstChange, firstChange, marks_neg, ih]

theorem bracket?_reflected (hf : IsReflected f g) (candidates : List K) :
    bracket? g candidates = bracket? f candidates := by
  unfold bracket?
  rw [← firstChange_reflected, List.map_filterMap]
  congr 1
  apply List.filterMap_congr
  intro x _
  rw [hf x]
  cases f x with
  | none => rfl
  | some y => simp only [Option.map_some, neg_neg]

theorem bisectFrom_reflected (hf : IsReflected f g) (htolerance : 0 < tolerance) {flo : K}
    (hflo : flo ≠ 0) (steps : ℕ) (lo hi : K) :
    bisectFrom g tolerance steps lo (-flo) hi = bisectFrom f tolerance steps lo flo hi := by
  induction steps generalizing lo flo hi with
  | zero => rfl
  | succ steps ih =>
    rw [bisectFrom, bisectFrom]
    simp only [hf (0.5 * (lo + hi))]
    cases f (0.5 * (lo + hi)) with
    | none => rfl
    | some fmid =>
      simp only [Option.map_some, scalarAbs_neg]
      split
      · rfl
      · rename_i hgoes
        -- A zero would have been within the tolerance.
        have hfmid : fmid ≠ 0 := by
          rintro rfl
          have hnear : Scalar.abs (0 : K) < tolerance := abs_zero.trans_lt htolerance
          simp [hnear] at hgoes
        rw [sameSign_neg hfmid hflo, ih hfmid, ih hflo]

theorem bisect_reflected (hf : IsReflected f g) (htolerance : 0 < tolerance) (lo hi : K) (steps : ℕ) :
    bisect g lo hi tolerance steps = bisect f lo hi tolerance steps := by
  unfold bisect
  rw [hf lo, hf hi]
  cases f lo with
  | none => rfl
  | some flo =>
    cases f hi with
    | none => rfl
    | some fhi =>
      simp only [Option.map_some, beq_zero_neg]
      split
      · rfl
      · split
        · rfl
        · rename_i hflo hfhi
          have hflo : flo ≠ 0 := by simpa using hflo
          have hfhi : fhi ≠ 0 := by simpa using hfhi
          rw [sameSign_neg hflo hfhi, bisectFrom_reflected hf htolerance hflo]

end Reckoner.RootSearch
