import Mathlib
import Reckoner.Proofs.Double

/-!
# Laws of doubles

Most laws of arithmetic fail for doubles. These hold: numbers are comparable, a positive double times
one that is at least one is positive, and what is computed from a double that is not finite is not
finite.
-/

namespace Reckoner.Double

open Float.Model Float.Model.UnpackedFloat

/-- The sign, mantissa and exponent that a double stands for. -/
def reading (x : Float) : UnpackedFloat := x.toModel.unpack

theorem reading_add (a b : Float) :
    reading (a + b) = stored (UnpackedFloat.add Format.binary64 (reading a) (reading b)) := rfl

theorem reading_sub (a b : Float) :
    reading (a - b) = stored (UnpackedFloat.sub Format.binary64 (reading a) (reading b)) := rfl

theorem reading_mul (a b : Float) :
    reading (a * b) = stored (UnpackedFloat.mul Format.binary64 (reading a) (reading b)) := rfl

theorem reading_abs (a : Float) : reading (Scalar.abs a) = stored (reading a).abs := rfl

theorem reading_zero : reading 0 = .zero .positive := rfl

theorem reading_one : reading 1 = .finite .positive (2 ^ 52) (-52) (by decide) := rfl

theorem reading_neg_one : reading (-1) = .finite .negative (2 ^ 52) (-52) (by decide) := rfl

theorem reading_half : reading 0.5 = .finite .positive (2 ^ 52) (-53) (by decide) := rfl

theorem canonical_of_reading {x : Float} {s : Sign} {m : ℕ} {e : ℤ} {hm : 0 < m}
    (h : reading x = .finite s m e hm) : Canonical m e ∧ e ≤ 971 := canonical_of_unpack h

/-! ## Order -/

theorem compare_swap (a b : UnpackedFloat) : b.compare a = (a.compare b).map Ordering.swap := by
  have hparts (e e' : ℤ) (m m' : ℕ) : (compare e' e).then (compare m' m) =
      ((compare e e').then (compare m m')).swap := by
    rw [Ordering.swap_then, ← Std.OrientedOrd.eq_swap, ← Std.OrientedOrd.eq_swap]
  cases a with
  | notANumber => cases b <;> rfl
  | infinity s =>
    cases b with
    | notANumber => rfl
    | infinity s' => cases s <;> cases s' <;> rfl
    | zero s' => cases s <;> rfl
    | finite s' => cases s <;> cases s' <;> rfl
  | zero s =>
    cases b with
    | notANumber => rfl
    | infinity s' => cases s' <;> rfl
    | zero s' => rfl
    | finite s' => cases s' <;> rfl
  | finite s m e =>
    cases b with
    | notANumber => cases s <;> rfl
    | infinity s' => cases s <;> cases s' <;> rfl
    | zero s' => cases s <;> rfl
    | finite s' m' e' =>
      cases s <;> cases s' <;>
        simp only [UnpackedFloat.compare, Option.map_some, Ordering.swap_swap, hparts e e' m m'] <;>
        rfl

theorem compare_ne_none {a b : UnpackedFloat} (ha : a ≠ .notANumber) (hb : b ≠ .notANumber) :
    a.compare b ≠ none := by
  cases a with
  | notANumber => exact absurd rfl ha
  | infinity s =>
    cases b with
    | notANumber => exact absurd rfl hb
    | infinity s' => exact nofun
    | zero s' => cases s <;> exact nofun
    | finite s' => cases s <;> exact nofun
  | zero s =>
    cases b with
    | notANumber => exact absurd rfl hb
    | infinity s' => cases s' <;> exact nofun
    | zero s' => exact nofun
    | finite s' => cases s' <;> exact nofun
  | finite s =>
    cases b with
    | notANumber => exact absurd rfl hb
    | infinity s' => cases s <;> cases s' <;> exact nofun
    | zero s' => cases s <;> exact nofun
    | finite s' => cases s <;> cases s' <;> exact nofun

theorem lt_iff {a b : Float} : a < b ↔ (reading a).compare (reading b) = some .lt := by
  have hcompare : a < b ↔ ((reading a).compare (reading b) == some .lt) = true := decide_eq_true_iff
  rw [hcompare, beq_iff_eq]

theorem le_iff {a b : Float} :
    a ≤ b ↔ ∃ o, (reading a).compare (reading b) = some o ∧ o.isLE = true := by
  have hcompare : a ≤ b ↔ ((reading a).compare (reading b)).any Ordering.isLE = true :=
    decide_eq_true_iff
  rw [hcompare, Option.any_eq_true]

theorem beq_iff {a b : Float} : (a == b) = true ↔ (reading a).compare (reading b) = some .eq := by
  have hcompare : (a == b) = ((reading a).compare (reading b) == some .eq) := rfl
  rw [hcompare, beq_iff_eq]

theorem lt_of_not_le {a b : Float} (ha : reading a ≠ .notANumber) (hb : reading b ≠ .notANumber)
    (h : ¬ a ≤ b) : b < a := by
  rw [lt_iff, compare_swap (reading a)]
  rw [le_iff] at h
  cases hcompare : (reading a).compare (reading b) with
  | none => exact absurd hcompare (compare_ne_none ha hb)
  | some o =>
    cases o with
    | lt => exact absurd ⟨.lt, hcompare, rfl⟩ h
    | eq => exact absurd ⟨.eq, hcompare, rfl⟩ h
    | gt => rfl

/-! ## The middle of two numbers above minus one -/

theorem reading_of_gt {x : Float} (h : -1 < x) :
    reading x ≠ .notANumber ∧ reading x ≠ .infinity .negative := by
  have hcompare := lt_iff.mp h
  constructor
  · intro hx
    rw [hx] at hcompare
    cases hcompare
  · intro hx
    rw [hx] at hcompare
    cases hcompare

theorem normalize_ne_notANumber (m : ℤ) (e : ℤ) (s : Sign) :
    UnpackedFloat.normalize Format.binary64 m e s ≠ .notANumber := by
  unfold UnpackedFloat.normalize
  split
  · exact roundWithAccuracy_ne_notANumber _ _ _ _
  · exact nofun
  · exact roundWithAccuracy_ne_notANumber _ _ _ _

theorem reading_add_ne_notANumber {a b : Float} (ha : -1 < a) (hb : -1 < b) :
    reading (a + b) ≠ .notANumber := by
  obtain ⟨ha, ha'⟩ := reading_of_gt ha
  obtain ⟨hb, hb'⟩ := reading_of_gt hb
  rw [reading_add]
  apply stored_ne_notANumber
  generalize reading a = u, reading b = v at ha ha' hb hb'
  cases u with
  | notANumber => exact absurd rfl ha
  | infinity s =>
    -- Only infinities of opposite signs have no sum.
    cases v with
    | notANumber => exact absurd rfl hb
    | infinity s' =>
      cases s with
      | negative => exact absurd rfl ha'
      | positive =>
        cases s' with
        | negative => exact absurd rfl hb'
        | positive => exact nofun
    | zero s' => exact nofun
    | finite s' => exact nofun
  | zero s =>
    cases v with
    | notANumber => exact absurd rfl hb
    | infinity s' => exact nofun
    | zero s' => cases s <;> cases s' <;> exact nofun
    | finite s' => exact nofun
  | finite s =>
    cases v with
    | notANumber => exact absurd rfl hb
    | infinity s' => exact nofun
    | zero s' => exact nofun
    | finite s' => exact normalize_ne_notANumber _ _ _

theorem reading_half_mul_ne_notANumber {x : Float} (hx : reading x ≠ .notANumber) :
    reading (0.5 * x) ≠ .notANumber := by
  rw [reading_mul, reading_half]
  apply stored_ne_notANumber
  generalize reading x = u at hx
  cases u with
  | notANumber => exact absurd rfl hx
  | infinity s => exact nofun
  | zero s => exact nofun
  | finite s => exact roundWithAccuracy_ne_notANumber _ _ _ _

theorem middle_gt {lo hi : Float} (hlo : -1 < lo) (hhi : -1 < hi)
    (h : ¬ 0.5 * (lo + hi) ≤ -1) : -1 < 0.5 * (lo + hi) :=
  lt_of_not_le (reading_half_mul_ne_notANumber (reading_add_ne_notANumber hlo hhi)) nofun h

/-! ## Products with what is at least one -/

/-- What is above zero. -/
inductive IsPositive : UnpackedFloat → Prop
  | infinity : IsPositive (.infinity .positive)
  | finite {m : ℕ} {e : ℤ} (hm : 0 < m) : IsPositive (.finite .positive m e hm)

theorem isPositive_of_pos {x : Float} (h : 0 < x) : IsPositive (reading x) := by
  rw [lt_iff, reading_zero] at h
  generalize reading x = u at h
  cases u with
  | notANumber => cases h
  | infinity s =>
    cases s with
    | negative => cases h
    | positive => exact .infinity
  | zero s => cases h
  | finite s m e hm =>
    cases s with
    | negative => cases h
    | positive => exact .finite hm

theorem IsPositive.compare_zero {u : UnpackedFloat} (h : IsPositive u) :
    (UnpackedFloat.zero .positive).compare u = some .lt := by
  cases h <;> rfl

theorem isPositive_stored_infinity : IsPositive (stored (.infinity .positive)) := by
  rw [stored_infinity]
  exact .infinity

theorem isPositive_stored {m : ℕ} {e : ℤ} (hm : 0 < m) (h : Canonical m e) :
    IsPositive (stored (.finite .positive m e hm)) := by
  rw [stored_canonical _ hm h]
  split
  · exact .finite hm
  · exact .infinity

/-- What is at least one, in its form. -/
inductive IsAtLeastOne : UnpackedFloat → Prop
  | infinity : IsAtLeastOne (.infinity .positive)
  | finite {m : ℕ} {e : ℤ} (hm : 0 < m) (full : 2 ^ 52 ≤ m) (exponent_ge : -52 ≤ e) :
    IsAtLeastOne (.finite .positive m e hm)

theorem isAtLeastOne_of_not_lt {x : Float} (hx : reading x ≠ .notANumber) (h : ¬ x < 1) :
    IsAtLeastOne (reading x) := by
  rw [lt_iff, reading_one] at h
  cases hread : reading x with
  | notANumber => exact absurd hread hx
  | infinity s =>
    rw [hread] at h
    cases s with
    | negative => exact absurd rfl h
    | positive => exact .infinity
  | zero s =>
    rw [hread] at h
    exact absurd rfl h
  | finite s m e hm =>
    rw [hread] at h
    cases s with
    | negative => exact absurd rfl h
    | positive =>
      have horder : (compare e (-52)).then (compare m (2 ^ 52)) ≠ .lt :=
        fun hlt => h (congrArg some hlt)
      rw [ne_eq, Ordering.then_eq_lt, compare_lt_iff_lt, compare_lt_iff_lt, compare_eq_iff_eq]
        at horder
      have hfull := (canonical_of_reading hread).1.full
      exact .finite hm (by omega) (by omega)

theorem isPositive_mul {t x : Float} (ht : IsPositive (reading t)) (hx : IsAtLeastOne (reading x)) :
    IsPositive (reading (t * x)) := by
  rw [reading_mul]
  cases hread : reading t with
  | notANumber => rw [hread] at ht; cases ht
  | zero s => rw [hread] at ht; cases ht
  | infinity s =>
    rw [hread] at ht
    cases ht
    generalize reading x = v at hx
    cases hx <;> exact isPositive_stored_infinity
  | finite s m e hm =>
    have hge : -1074 ≤ e := (canonical_of_reading hread).1.exponent_ge
    rw [hread] at ht
    cases ht
    generalize reading x = v at hx
    cases hx with
    | infinity => exact isPositive_stored_infinity
    | @finite m' e' hm' full exponent_ge =>
      -- The product has at least the bits of the second mantissa.
      have hfull : 2 ^ 52 ≤ m * m' := full.trans (Nat.le_mul_of_pos_left m' hm)
      have hkept : 2 ^ (-1074 - (e + e')).toNat ≤ m * m' :=
        (Nat.pow_le_pow_right two_pos (by omega)).trans hfull
      obtain ⟨product, exponent, hproduct, hround, hcanonical⟩ :=
        roundWithAccuracy_pos (.positive * .positive) (.inl hfull) hkept .exact
      have hmul : UnpackedFloat.mul Format.binary64 (.finite .positive m e hm)
          (.finite .positive m' e' hm') = .finite .positive product exponent hproduct := hround
      rw [hmul]
      exact isPositive_stored hproduct hcanonical

theorem isAtLeastOne_greater (a : Float) : IsAtLeastOne (reading (Scalar.greater a 1)) := by
  have hone : IsAtLeastOne (reading 1) := .finite (by decide) le_rfl le_rfl
  unfold Scalar.greater
  split
  · exact hone
  · rename_i hsame
    split
    · exact hone
    · rename_i hle
      refine isAtLeastOne_of_not_lt (fun hread => hsame ?_) hle
      have hbeq : (a == a) = false := by
        rw [← Bool.not_eq_true, beq_iff, hread]
        exact nofun
      rw [bne, hbeq, Bool.not_false]

theorem reading_abs_of_zero {y : Float} (hy : (y == 0) = true) :
    reading (Scalar.abs y) = .zero .positive := by
  rw [beq_iff, reading_zero] at hy
  rw [reading_abs]
  generalize reading y = u at hy
  cases u with
  | notANumber => cases hy
  | infinity s => cases s <;> cases hy
  | zero s => exact stored_zero .positive
  | finite s => cases s <;> cases hy

theorem abs_lt_of_zero {y tolerance : Float} (hy : (y == 0) = true) (htolerance : 0 < tolerance)
    (a : Float) : Scalar.abs y < tolerance * Scalar.greater a 1 := by
  rw [lt_iff, reading_abs_of_zero hy]
  exact (isPositive_mul (isPositive_of_pos htolerance) (isAtLeastOne_greater a)).compare_zero

/-! ## What is finite -/

theorem isFinite_eq (x : Float) : Scalar.isFinite x = (reading x).isFinite := rfl

theorem isFinite_of_stored {u : UnpackedFloat} (h : (stored u).isFinite = true) :
    u.isFinite = true := by
  cases u with
  | notANumber =>
    rw [stored_notANumber] at h
    exact h
  | infinity s =>
    rw [stored_infinity] at h
    exact h
  | zero s => rfl
  | finite s => rfl

/-- Only finite operands have finite results. -/
def IsStrict (op : UnpackedFloat → UnpackedFloat → UnpackedFloat) : Prop :=
  ∀ u v, (op u v).isFinite = true → u.isFinite = true ∧ v.isFinite = true

theorem IsStrict.of_isFinite {op : UnpackedFloat → UnpackedFloat → UnpackedFloat} (hop : IsStrict op)
    {a b x : Float} (hx : reading x = stored (op (reading a) (reading b)))
    (h : Scalar.isFinite x = true) : Scalar.isFinite a = true ∧ Scalar.isFinite b = true := by
  rw [isFinite_eq, hx] at h
  exact hop _ _ (isFinite_of_stored h)

theorem isStrict_add : IsStrict (UnpackedFloat.add Format.binary64) := by
  rintro (s | _ | s | s) (s' | _ | s' | s') h <;>
    first
    | exact ⟨rfl, rfl⟩
    | cases h
    | cases s <;> cases s' <;> cases h

theorem isStrict_sub : IsStrict (UnpackedFloat.sub Format.binary64) := by
  rintro (s | _ | s | s) (s' | _ | s' | s') h <;>
    first
    | exact ⟨rfl, rfl⟩
    | cases h
    | cases s <;> cases s' <;> cases h

theorem isStrict_mul : IsStrict (UnpackedFloat.mul Format.binary64) := by
  rintro (s | _ | s | s) (s' | _ | s' | s') h <;>
    first
    | exact ⟨rfl, rfl⟩
    | cases h

theorem isFinite_mul_unit {a b : Float} {s : Sign}
    (hb : reading b = .finite s (2 ^ 52) (-52) (by decide)) (ha : Scalar.isFinite a = true) :
    Scalar.isFinite (a * b) = true := by
  rw [isFinite_eq] at ha
  rw [isFinite_eq, reading_mul, hb]
  cases hread : reading a with
  | notANumber => rw [hread] at ha; cases ha
  | infinity s' => rw [hread] at ha; cases ha
  | zero s' =>
    have hmul : UnpackedFloat.mul Format.binary64 (.zero s') (.finite s (2 ^ 52) (-52) (by decide)) =
        .zero (s' * s) := rfl
    rw [hmul, stored_zero]
    rfl
  | finite s' m e hm =>
    obtain ⟨hcanonical, hle⟩ := canonical_of_reading hread
    have hmul : UnpackedFloat.mul Format.binary64 (.finite s' m e hm)
        (.finite s (2 ^ 52) (-52) (by decide)) = .finite (s' * s) m e hm :=
      roundWithAccuracy_exact (s' * s) hcanonical hm 52
    rw [hmul, stored_canonical _ hm hcanonical, if_pos hle]
    rfl

end Reckoner.Double
