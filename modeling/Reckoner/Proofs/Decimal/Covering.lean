import Reckoner.Proofs.Exact
import Reckoner.Decimal.Shortest

/-!
# The numbers that round to a double

They lie between halfway to the double below and halfway to the double above. The shortest decimal of
a double is one of them, and doubles of different magnitude have none in common, so that no two
magnitudes share a shortest decimal.
-/

namespace Reckoner.Decimal

/-- The number that a decimal stands for. -/
def value (d : Decimal) : ℚ := d.digits * ((10 : ℕ) : ℚ) ^ d.exponent

/-! ## Comparing in whole numbers -/

theorem zpow_mul_toNat {b : ℚ} (hb : b ≠ 0) (i : ℤ) : b ^ i * b ^ (-i).toNat = b ^ i.toNat := by
  rw [← zpow_natCast, ← zpow_natCast, ← zpow_add₀ hb]
  congr 1
  omega

theorem compare_mul_right {x y c : ℚ} (hc : 0 < c) : compare (x * c) (y * c) = compare x y := by
  rw [← cmp_eq_compare, ← cmp_eq_compare]
  have hmono : StrictMono fun x : ℚ => x * c := fun _ _ hlt => mul_lt_mul_of_pos_right hlt hc
  exact hmono.cmp_map_eq x y

theorem compare_natCast (m n : ℕ) : compare (m : ℚ) n = compare m n := by
  rw [← cmp_eq_compare, ← cmp_eq_compare]
  exact Nat.strictMono_cast.cmp_map_eq m n

theorem cast_natPow (b n : ℕ) : ((Nat.pow b n : ℕ) : ℚ) = (b : ℚ) ^ n := Nat.cast_pow b n

theorem compareScaled_eq (a : ℕ) (i : ℤ) (b : ℕ) (j : ℤ) :
    compareScaled a i b j = compare ((a : ℚ) * (10 : ℕ) ^ i) (b * (2 : ℕ) ^ j) := by
  have hten : ((10 : ℕ) : ℚ) ≠ 0 := by norm_num
  have htwo : ((2 : ℕ) : ℚ) ≠ 0 := by norm_num
  have hscale : (0 : ℚ) < (10 : ℕ) ^ (-i).toNat * (2 : ℕ) ^ (-j).toNat := by positivity
  have hleft : (a : ℚ) * (10 : ℕ) ^ i * ((10 : ℕ) ^ (-i).toNat * (2 : ℕ) ^ (-j).toNat) =
      ((a * Nat.pow 10 i.toNat * Nat.pow 2 (-j).toNat : ℕ) : ℚ) := by
    rw [← mul_assoc, mul_assoc (a : ℚ), zpow_mul_toNat hten, Nat.cast_mul, Nat.cast_mul,
      cast_natPow, cast_natPow]
  have hright : (b : ℚ) * (2 : ℕ) ^ j * ((10 : ℕ) ^ (-i).toNat * (2 : ℕ) ^ (-j).toNat) =
      ((b * Nat.pow 2 j.toNat * Nat.pow 10 (-i).toNat : ℕ) : ℚ) := by
    rw [mul_comm (((10 : ℕ) : ℚ) ^ _), ← mul_assoc, mul_assoc (b : ℚ), zpow_mul_toNat htwo,
      Nat.cast_mul, Nat.cast_mul, cast_natPow, cast_natPow]
  rw [← compare_mul_right hscale, hleft, hright, compare_natCast]
  rfl

/-! ## Halfway points -/

namespace Dyadic

/-- A quarter of the place value of the last bit. -/
def quarter (x : Dyadic) : ℚ := ((2 : ℕ) : ℚ) ^ (x.exponent - 2)

theorem quarter_pos (x : Dyadic) : 0 < x.quarter := zpow_pos (by norm_num) _

/-- The exact value of a magnitude. -/
def value (x : Dyadic) : ℚ := x.significand * ((2 : ℕ) : ℚ) ^ x.exponent

/-- Halfway to the double below. -/
def low (x : Dyadic) : ℚ :=
  ((if x.narrowBelow then 4 * x.significand - 1 else 4 * x.significand - 2 : ℕ) : ℚ) * x.quarter

/-- Halfway to the double above. -/
def high (x : Dyadic) : ℚ := ((4 * x.significand + 2 : ℕ) : ℚ) * x.quarter

/-- The number rounds to `x`. Of the ends those of an even significand do. -/
structure Covers (x : Dyadic) (v : ℚ) : Prop where
  above_low : x.low < v ∨ x.significand % 2 = 0 ∧ v = x.low
  below_high : v < x.high ∨ x.significand % 2 = 0 ∧ v = x.high

theorem Covers.low_le {x : Dyadic} {v : ℚ} (h : x.Covers v) : x.low ≤ v :=
  h.above_low.elim le_of_lt fun hend => hend.2.ge

theorem Covers.le_high {x : Dyadic} {v : ℚ} (h : x.Covers v) : v ≤ x.high :=
  h.below_high.elim le_of_lt fun hend => hend.2.le

theorem readsBack_iff {x : Dyadic} {d : Decimal} : x.readsBack d = true ↔ x.Covers d.value := by
  have hcovers : x.Covers d.value ↔
      (x.low < d.value ∨ x.significand % 2 = 0 ∧ d.value = x.low) ∧
        (d.value < x.high ∨ x.significand % 2 = 0 ∧ d.value = x.high) :=
    ⟨fun h => ⟨h.above_low, h.below_high⟩, fun h => ⟨h.1, h.2⟩⟩
  rw [hcovers]
  simp only [readsBack, compareScaled_eq, Bool.and_eq_true, Bool.or_eq_true, decide_eq_true_eq,
    compare_gt_iff_gt, compare_lt_iff_lt, compare_eq_iff_eq]
  rfl

theorem value_eq_quarters (x : Dyadic) : x.value = ((4 * x.significand : ℕ) : ℚ) * x.quarter := by
  have htwo : ((2 : ℕ) : ℚ) ≠ 0 := by norm_num
  rw [value, quarter, zpow_sub₀ htwo]
  push_cast
  ring

theorem covers_value {x : Dyadic} (h : 0 < x.significand) : x.Covers x.value := by
  constructor
  · left
    rw [value_eq_quarters, low]
    refine mul_lt_mul_of_pos_right (Nat.cast_lt.mpr ?_) x.quarter_pos
    split <;> omega
  · left
    rw [value_eq_quarters, high]
    exact mul_lt_mul_of_pos_right (Nat.cast_lt.mpr (by omega)) x.quarter_pos

/-- Zero is among the numbers that round to it. -/
theorem covers_zero {x : Dyadic} (h : x.significand = 0) : x.Covers 0 := by
  constructor
  · refine .inr ⟨by rw [h], ?_⟩
    simp [low, h]
  · left
    exact mul_pos (Nat.cast_pos.mpr (Nat.succ_pos _)) x.quarter_pos

end Dyadic

/-! ## The shortest decimal -/

theorem value_strip (d : Decimal) : (strip d).value = d.value := by
  fun_induction strip d with
  | case1 d h ih =>
    have hten : ((10 : ℕ) : ℚ) ≠ 0 := by norm_num
    have hdigits : ((10 * (d.digits / 10) : ℕ) : ℚ) = d.digits := by
      rw [Nat.mul_div_cancel' (Nat.dvd_of_mod_eq_zero h.2)]
    rw [ih, value, value, zpow_add_one₀ hten, ← hdigits]
    push_cast
    ring
  | case2 => rfl

theorem Dyadic.value_exact (x : Dyadic) : x.exact.value = x.value := by
  have hten : ((10 : ℕ) : ℚ) = ((5 : ℕ) : ℚ) * (2 : ℕ) := by norm_num
  unfold exact
  split
  · rename_i hexponent
    rw [Decimal.value, zpow_zero, mul_one, numerator, Dyadic.value]
    obtain ⟨n, hn⟩ := Int.eq_ofNat_of_zero_le hexponent
    rw [hn, Int.toNat_natCast, zpow_natCast]
    rw [Nat.cast_mul, cast_natPow]
  · rename_i hexponent
    obtain ⟨n, hn⟩ := Int.eq_ofNat_of_zero_le (by omega : 0 ≤ -x.exponent)
    have hx : x.exponent = -(n : ℤ) := by omega
    have hfive : ((5 : ℕ) : ℚ) ≠ 0 := by norm_num
    rw [Decimal.value, Dyadic.value, hn, Int.toNat_natCast, hx, hten, mul_zpow, Nat.cast_mul, cast_natPow,
      ← zpow_natCast, mul_assoc, ← mul_assoc (((5 : ℕ) : ℚ) ^ (n : ℤ)), ← zpow_add₀ hfive]
    simp

theorem Dyadic.readsBack_of_onGrid {x : Dyadic} {exponent : ℤ} {d : Decimal}
    (h : x.onGrid exponent = some d) : x.readsBack d = true := by
  unfold onGrid at h
  dsimp only at h
  split at h
  · split at h <;> cases h <;> assumption
  · cases h
    assumption
  · cases h
    assumption
  · cases h

/-- The shortest decimal rounds to the double it was made from. -/
theorem Dyadic.covers_shortest (x : Dyadic) : x.Covers x.shortest.value := by
  unfold shortest
  split
  · rename_i hzero
    simpa [Decimal.value] using covers_zero hzero
  · rename_i hne
    dsimp only
    rw [value_strip]
    cases hfound : (List.range 17).findSome? fun n => x.onGrid (x.scale - (n + 1 : Nat)) with
    | none =>
      rw [Option.getD_none, value_exact]
      exact covers_value (Nat.pos_of_ne_zero hne)
    | some d =>
      obtain ⟨n, -, hd⟩ := List.exists_of_findSome?_eq_some hfound
      exact readsBack_iff.mp (readsBack_of_onGrid hd)

/-! ## Neighbours -/

namespace Dyadic

/-- The magnitude number `n`, counted from zero: its exponent and fraction fields are the binary
digits of `n`. -/
def nth (n : ℕ) : Dyadic :=
  if n / 2 ^ 52 = 0 then ⟨n, -1074, false⟩
  else ⟨2 ^ 52 + n % 2 ^ 52, (n / 2 ^ 52 : ℕ) - 1075, n % 2 ^ 52 = 0 && n / 2 ^ 52 > 1⟩

/-- Even and odd significands take turns. -/
theorem nth_significand_mod (n : ℕ) : (nth n).significand % 2 = n % 2 := by
  unfold nth
  split
  · rfl
  · dsimp only
    omega

theorem high_eq_low_of_same_binade {x y : Dyadic} (hexponent : y.exponent = x.exponent)
    (hsignificand : y.significand = x.significand + 1) (hnarrow : y.narrowBelow = false) :
    x.high = y.low := by
  have hquarters : 4 * (x.significand + 1) - 2 = 4 * x.significand + 2 := by omega
  rw [high, low, quarter, quarter, hexponent, hsignificand, hnarrow, if_neg Bool.false_ne_true,
    hquarters]

theorem high_eq_low_of_next_binade {x y : Dyadic} (hexponent : y.exponent = x.exponent + 1)
    (hsignificand : 2 * y.significand = x.significand + 1) (hnarrow : y.narrowBelow = true) :
    x.high = y.low := by
  have htwo : ((2 : ℕ) : ℚ) ≠ 0 := by norm_num
  have hquarter : y.quarter = x.quarter * (2 : ℕ) := by
    rw [quarter, quarter, hexponent, add_sub_right_comm, zpow_add_one₀ htwo]
  have hquarters : 4 * x.significand + 2 = (4 * y.significand - 1) * 2 := by omega
  rw [high, low, hquarter, hnarrow, if_pos rfl, hquarters, Nat.cast_mul]
  ring

/-- What lies halfway from one double to the next lies halfway from the next to it. -/
theorem nth_high (n : ℕ) : (nth n).high = (nth (n + 1)).low := by
  by_cases hlast : (n + 1) % 2 ^ 52 = 0 ∧ n / 2 ^ 52 ≠ 0
  · have hnext : (n + 1) / 2 ^ 52 ≠ 0 := by omega
    rw [nth, nth, if_neg hlast.2, if_neg hnext]
    apply high_eq_low_of_next_binade
    · dsimp only
      omega
    · dsimp only
      omega
    · rw [Bool.and_eq_true, decide_eq_true_eq, decide_eq_true_eq]
      omega
  · apply high_eq_low_of_same_binade
    · unfold nth
      split <;> split <;> dsimp only <;> omega
    · unfold nth
      split <;> split <;> dsimp only <;> omega
    · unfold nth
      split
      · rfl
      · rw [Bool.and_eq_false_iff, decide_eq_false_iff_not, decide_eq_false_iff_not]
        omega

theorem nth_low_lt_high (n : ℕ) : (nth n).low < (nth n).high := by
  refine mul_lt_mul_of_pos_right (Nat.cast_lt.mpr ?_) (quarter_pos _)
  split <;> omega

theorem strictMono_nth_low : StrictMono fun n => (nth n).low := by
  refine strictMono_nat_of_lt_succ fun n => ?_
  exact (nth_low_lt_high n).trans_eq (nth_high n)

/-- No number rounds to two magnitudes: where they meet, only one of the two is even. -/
theorem Covers.not_lt {m n : ℕ} {v : ℚ} (hm : (nth m).Covers v) (hn : (nth n).Covers v) :
    ¬ m < n := by
  intro hlt
  have hle : (nth (m + 1)).low ≤ (nth n).low := strictMono_nth_low.monotone hlt
  have hmeet : (nth (m + 1)).low = (nth n).low :=
    hle.antisymm (hn.low_le.trans (hm.le_high.trans_eq (nth_high m)))
  have hnext : m + 1 = n := strictMono_nth_low.injective hmeet
  have hhigh : (nth m).high = (nth n).low := (nth_high m).trans hmeet
  obtain hbelow | ⟨hmEven, -⟩ := hm.below_high
  · exact absurd (hbelow.trans_eq hhigh) (not_lt_of_ge hn.low_le)
  · obtain habove | ⟨hnEven, -⟩ := hn.above_low
    · exact absurd (hhigh.trans_lt habove) (not_lt_of_ge hm.le_high)
    · rw [nth_significand_mod] at hmEven hnEven
      omega

theorem nth_shortest_value_injective : Function.Injective fun n => (nth n).shortest.value := by
  intro m n h
  have hm := (nth m).covers_shortest
  have hn := (nth n).covers_shortest
  rw [show (nth m).shortest.value = (nth n).shortest.value from h] at hm
  exact le_antisymm (not_lt.mp (hn.not_lt hm)) (not_lt.mp (hm.not_lt hn))

end Dyadic

end Reckoner.Decimal
