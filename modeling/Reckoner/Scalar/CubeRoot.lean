import Reckoner.Decimal.Dyadic

/-!
# Cube roots

The double nearest to the cube root of a double. The significand is scaled until the root, taken in
natural numbers, has one bit more than a double holds; that bit decides the rounding. A draw cannot
occur, since the cube of an odd number is odd and the scaled significand is even.
-/

namespace Reckoner

/-- Newton's steps toward the whole cube root of `n`, from a guess above it. -/
def cubeRootFrom (n guess : Nat) : Nat :=
  let next := (2 * guess + n / (guess * guess)) / 3
  if next < guess then cubeRootFrom n next else guess
termination_by guess

def cube (n : Nat) : Nat := n * (n * n)

/-- The steps stop at or below the root. -/
theorem cubeRootFrom_cube_le (n guess : Nat) : cube (cubeRootFrom n guess) ≤ n := by
  fun_induction cubeRootFrom n guess with
  | case1 guess next h ih => exact ih
  | case2 guess next h =>
    have : guess ≤ n / (guess * guess) := by omega
    exact Nat.le_trans (Nat.mul_le_mul_right _ this) (Nat.div_mul_le_self n _)

/-- One step from `a` does not fall below the root by one or more. -/
theorem lt_cube_next {n a : Nat} (ha : 0 < a) (h : (2 * a + n / (a * a)) / 3 < a) :
    n < cube ((2 * a + n / (a * a)) / 3 + 1) := by
  generalize hq : n / (a * a) = q at h
  have hn : n < (q + 1) * (a * a) := by
    rw [← hq]
    exact Nat.lt_mul_of_div_lt (Nat.lt_succ_self _) (Nat.mul_pos ha ha)
  generalize hb : (2 * a + q) / 3 + 1 = b at h ⊢
  obtain ⟨d, rfl⟩ : ∃ d, a = b + d := ⟨a - b, by omega⟩
  obtain ⟨e, rfl⟩ : ∃ e, b = 2 * d + e := ⟨b - 2 * d, by omega⟩
  have he : q + 1 ≤ e := by omega
  refine Nat.lt_of_lt_of_le hn (Nat.le_trans (Nat.mul_le_mul_right _ he) ?_)
  have h1 : cube (2 * d + e) =
      e * ((2 * d + e + d) * (2 * d + e + d)) + (8 * (d * (d * d)) + 3 * (e * (d * d))) := by
    unfold cube
    grind
  exact h1 ▸ Nat.le_add_right _ _

/-- Started at or above the root, the steps do not fall below it by one or more. -/
theorem lt_cubeRootFrom_succ_cube {n guess : Nat} (h : n < cube (guess + 1)) :
    n < cube (cubeRootFrom n guess + 1) := by
  fun_induction cubeRootFrom n guess with
  | case1 guess next hlt ih => exact ih (lt_cube_next (Nat.zero_lt_of_lt hlt) hlt)
  | case2 guess next hlt => exact h

/-- The double nearest to the cube root of `x`, under the sign of `x`. -/
def cubeRoot (x : Float) : Float :=
  if x.isFinite && x != 0 then
    let d := Decimal.Dyadic.ofFloat x
    let least := 156 - d.significand.log2
    let shift := least + ((d.exponent - least) % 3).toNat
    let twice := cubeRootFrom (d.significand <<< (shift + 3)) (Nat.pow 2 54)
    let root := (Float.ofNat ((twice + 1) / 2)).scaleB ((d.exponent - shift) / 3)
    if x < 0 then -root else root
  else x

end Reckoner
