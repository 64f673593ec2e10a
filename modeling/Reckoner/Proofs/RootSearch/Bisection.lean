import Mathlib.Order.Interval.Set.Basic
import Reckoner.Proofs.RootSearch

/-!
# Bisection of a bracket

On a bracket with a value at every point between its ends, bisection answers as soon as it may take
enough steps to halve the bracket down to the spacing of numbers. What it answers lies in the bracket,
and it is near a zero or in a narrow bracket of its own. Nothing else is assumed of the function: it
need not be continuous, and its values at the ends of the brackets in between may be zero, which
bisection counts as positive.
-/

namespace Reckoner.RootSearch

open Scalar

variable {K : Type} [Elementary K] [Field K] [LinearOrder K] [FloorRing K]

/-- The values at the two points have opposite signs, or one of them is zero. -/
def Brackets (f : K → Option K) (a b : K) : Prop :=
  ∃ y z, f a = some y ∧ f b = some z ∧ (y = 0 ∨ z = 0 ∨ y < 0 ∧ 0 < z ∨ 0 < y ∧ z < 0)

/-- Two values mark a zero or a change of sign, as the program checks it. -/
theorem marks_iff {y z : K} : (y == 0 || z == 0 || !sameSign y z) = true ↔
    y = 0 ∨ z = 0 ∨ y < 0 ∧ 0 < z ∨ 0 < y ∧ z < 0 := by
  have hzero (a : K) : (a == 0) = true ↔ a = 0 := decide_eq_true_iff
  rw [Bool.or_eq_true, Bool.or_eq_true, Bool.not_eq_true', ← Bool.not_eq_true, sameSign_ofField,
    hzero, hzero, or_assoc]
  by_cases hy : y = 0
  · simp [hy]
  · by_cases hz : z = 0
    · simp [hz]
    · rcases lt_or_gt_of_ne hy with hy' | hy' <;> rcases lt_or_gt_of_ne hz with hz' | hz' <;>
        simp [hy, hz, hy', hz', hy'.not_gt, hz'.not_gt]

variable {f : K → Option K} {a b lo hi tolerance : K}

theorem Brackets.symm (h : Brackets f a b) : Brackets f b a := by
  obtain ⟨y, z, hy, hz, hsigns⟩ := h
  exact ⟨z, y, hz, hy, by tauto⟩

theorem brackets_of_sameSign {y z : K} (ha : f a = some y) (hb : f b = some z)
    (hsign : sameSign y z = false) : Brackets f a b :=
  ⟨y, z, ha, hb, marks_iff.mp (by simp [hsign])⟩

variable [IsStrictOrderedRing K]

theorem middle_mem_Icc {x y : K} (hx : x ∈ Set.Icc lo hi) (hy : y ∈ Set.Icc lo hi) :
    (x + y) / 2 ∈ Set.Icc lo hi := by
  obtain ⟨hlo_x, hx_hi⟩ := hx
  obtain ⟨hlo_y, hy_hi⟩ := hy
  constructor <;> linarith

/-- The middle of a bracket lies in it, whichever of its ends is the lower one. -/
theorem IsHalvedWithin.exists_brackets {x : K} (h : IsHalvedWithin (· ∈ Set.Icc lo hi) f x) :
    ∃ a ∈ Set.Icc lo hi, ∃ b ∈ Set.Icc lo hi, x ∈ Set.Icc a b ∧ Brackets f a b ∧
      b - a ≤ spacing * max |x| 1 := by
  obtain ⟨a, b, y, z, ha, hb, hfa, hfb, hsign, hx, hwidth⟩ := h
  rw [middle_eq] at hx
  rw [greater_ofField] at hwidth
  have hbrackets := brackets_of_sameSign hfa hfb hsign
  have hnarrow : |b - a| ≤ spacing * max |x| 1 := hwidth
  obtain ⟨hright, hleft⟩ := abs_le.mp hnarrow
  rcases le_total a b with hab | hba
  · exact ⟨a, ha, b, hb, ⟨by linarith, by linarith⟩, hbrackets, hleft⟩
  · exact ⟨b, hb, a, ha, ⟨by linarith, by linarith⟩, hbrackets.symm, by linarith⟩

/-- On a bracket of finite values, and with enough steps, bisection ends within the bracket: at a zero,
near one, or in a bracket that is too narrow to halve. -/
theorem bisect_of_brackets (hlt : lo < hi) (hfinite : ∀ x ∈ Set.Icc lo hi, ∃ y, f x = some y)
    (hbrackets : Brackets f lo hi) (tolerance : K) {steps : ℕ} (hsteps : 1 ≤ steps)
    (hwidth : (hi - lo) / 2 ^ (steps - 1) ≤ spacing) :
    ∃ x ∈ Set.Icc lo hi, bisect f lo hi tolerance steps = some x ∧
      ((∃ y, f x = some y ∧ (y = 0 ∨ |y| < tolerance)) ∨
        ∃ a ∈ Set.Icc lo hi, ∃ b ∈ Set.Icc lo hi, x ∈ Set.Icc a b ∧ Brackets f a b ∧
          b - a ≤ spacing * max |x| 1) := by
  have hlo : lo ∈ Set.Icc lo hi := Set.left_mem_Icc.mpr hlt.le
  have hhi : hi ∈ Set.Icc lo hi := Set.right_mem_Icc.mpr hlt.le
  obtain ⟨flo, fhi, hflo, hfhi, hsigns⟩ := hbrackets
  have hhalvings : |hi - lo| ≤ 2 ^ (steps - 1) * spacing := by
    rw [abs_of_pos (sub_pos.mpr hlt), ← div_le_iff₀' (by positivity)]
    exact hwidth
  obtain ⟨x, hx, hbisect⟩ := exists_bisect_eq_some hfinite (fun _ _ => middle_mem_Icc) tolerance
    (Nat.sub_one_lt_of_le hsteps le_rfl) hlo hhi hflo hfhi hhalvings (marks_iff.mpr hsigns)
  refine ⟨x, hx, hbisect, ?_⟩
  have hmiddle (a b y : K) (ha : a ∈ Set.Icc lo hi) (hb : b ∈ Set.Icc lo hi)
      (_ : f (0.5 * (a + b)) = some y) : 0.5 * (a + b) ∈ Set.Icc lo hi := by
    rw [middle_eq]
    exact middle_mem_Icc ha hb
  rcases (bisect_ends_within hmiddle hlo hhi hbisect).2 with ⟨y, hy, hnear⟩ | hhalved
  · exact .inl ⟨y, hy, hnear.imp_left of_decide_eq_true⟩
  · exact .inr hhalved.exists_brackets

/-- The square root of two is not among the rationals, and no tolerance ends the search for it. -/
theorem bisect_of_brackets_sqrtTwo :
    (0 : ℚ) < 2 ∧ (2 - 0 : ℚ) / 2 ^ (54 - 1) ≤ spacing ∧
    ∃ x ∈ Set.Icc (0 : ℚ) 2, bisect (fun x : ℚ => some (x * x - 2)) 0 2 0 54 = some x ∧
      ((∃ y, some (x * x - 2) = some y ∧ (y = 0 ∨ |y| < 0)) ∨
        ∃ a ∈ Set.Icc (0 : ℚ) 2, ∃ b ∈ Set.Icc (0 : ℚ) 2, x ∈ Set.Icc a b ∧
          Brackets (fun x : ℚ => some (x * x - 2)) a b ∧ b - a ≤ spacing * max |x| 1) := by
  have hlt : (0 : ℚ) < 2 := by norm_num
  have hwidth : (2 - 0 : ℚ) / 2 ^ (54 - 1) ≤ spacing := by
    unfold spacing
    norm_num
  have hbrackets : Brackets (fun x : ℚ => some (x * x - 2)) 0 2 :=
    ⟨-2, 2, by norm_num, by norm_num, .inr (.inr (.inl (by norm_num)))⟩
  exact ⟨hlt, hwidth,
    bisect_of_brackets hlt (fun x _ => ⟨_, rfl⟩) hbrackets 0 (by norm_num) hwidth⟩

end Reckoner.RootSearch
