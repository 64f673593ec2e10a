import Mathlib
import Reckoner.Scalar.Double

/-!
# How doubles round

The logical model of doubles works on signs, mantissas and exponents: an operation rounds what it
computes to fifty-three bits, and storing the result and reading it back changes nothing but what is
too large, which becomes infinite. A result is lost to zero only below the least double.
-/

namespace Reckoner.Double

open Float.Model Float.Model.UnpackedFloat

/-! ## The canonical form -/

/-- A mantissa has its fifty-three bits unless the exponent is the least. -/
structure Canonical (mantissa : ℕ) (exponent : ℤ) : Prop where
  lt : mantissa < 2 ^ 53
  exponent_ge : -1074 ≤ exponent
  full : 2 ^ 52 ≤ mantissa ∨ exponent = -1074

theorem exponentBias_eq : (Format.binary64.exponentBias : ℤ) = 1023 := rfl

/-- The leading bit of a full mantissa is not stored. -/
theorem toNat_append_implicit (m : BitVec 52) : (1#1 ++ m).toNat = 2 ^ 52 + m.toNat := by
  rw [BitVec.toNat_append, ← Nat.shiftLeft_add_eq_or_of_lt m.isLt]
  simp [Nat.shiftLeft_eq]

theorem canonical_of_unpack {bits : BitVec 64} {s : Sign} {m : ℕ} {e : ℤ} {hm : 0 < m}
    (h : UnpackedFloat.unpack Format.binary64 bits = .finite s m e hm) :
    Canonical m e ∧ e ≤ 971 := by
  have hmantissa : (@unpackMantissa Format.binary64 bits).toNat < 2 ^ 52 := BitVec.isLt _
  have hexponent : (@unpackExponent Format.binary64 bits).toNat < 2 ^ 11 := BitVec.isLt _
  unfold UnpackedFloat.unpack at h
  dsimp only at h
  split at h
  · split at h <;> cases h
  · rename_i hlargest
    have hlargest : (@unpackExponent Format.binary64 bits).toNat ≠ 2047 :=
      fun heq => hlargest (BitVec.eq_of_toNat_eq heq)
    split at h
    · -- The least exponent, where all bits of the mantissa are stored.
      rename_i hleast
      split at h
      · cases h
      · cases h
        rw [hleast, exponentBias_eq]
        exact ⟨⟨by omega, by decide, .inr (by decide)⟩, by decide⟩
    · rename_i hleast
      have hleast : (@unpackExponent Format.binary64 bits).toNat ≠ 0 :=
        fun heq => hleast (BitVec.eq_of_toNat_eq heq)
      cases h
      rw [toNat_append_implicit, exponentBias_eq]
      exact ⟨⟨by omega, by push_cast; omega, .inl (by omega)⟩, by push_cast; omega⟩

/-! ## Storing -/

/-- What is read back where `u` was stored. -/
def stored (u : UnpackedFloat) : UnpackedFloat := (Float.Model.pack u).unpack

theorem stored_eq (u : UnpackedFloat) :
    stored u = UnpackedFloat.unpack Format.binary64 (UnpackedFloat.pack Format.binary64 u) := rfl

@[simp] theorem stored_notANumber : stored .notANumber = .notANumber := rfl

@[simp] theorem stored_infinity (s : Sign) : stored (.infinity s) = .infinity s := by
  cases s <;> rfl

@[simp] theorem stored_zero (s : Sign) : stored (.zero s) = .zero s := by
  cases s <;> rfl

theorem ofBitVec_toBitVec (s : Sign) : Sign.ofBitVec s.toBitVec = s := by
  cases s <;> rfl

theorem unpackSign_packComponents (spec : Format) (s : Sign) (e : BitVec spec.exponentBits)
    (m : BitVec spec.mantissaBitsWithoutImplicit) :
    unpackSign (packComponents spec s e m) = s.toBitVec := by
  ext i hi
  obtain rfl := Nat.lt_one_iff.mp hi
  simp [unpackSign, packComponents, BitVec.getLsbD_append, BitVec.getElem_append]

theorem ofNat_ne_largest {k : ℕ} (hk : k + 1 < 2 ^ 11) : BitVec.ofNat 11 k ≠ -1#11 := by
  intro h
  have htoNat := congrArg BitVec.toNat h
  have hlargest : (-1#11).toNat = 2047 := rfl
  rw [BitVec.toNat_ofNat, Nat.mod_eq_of_lt (by omega), hlargest] at htoNat
  omega

theorem ofNat_ne_zero {w k : ℕ} (hk : k < 2 ^ w) (hpos : 0 < k) : BitVec.ofNat w k ≠ 0#w := by
  intro h
  have htoNat := congrArg BitVec.toNat h
  rw [BitVec.toNat_ofNat, Nat.mod_eq_of_lt hk, BitVec.toNat_zero] at htoNat
  omega

theorem log2_of_full {m : ℕ} (hm : m < 2 ^ 53) (hfull : 2 ^ 52 ≤ m) : m.log2 = 52 :=
  (Nat.log2_eq_iff (by omega)).mpr ⟨hfull, hm⟩

theorem stored_of_large (s : Sign) {m : ℕ} {e : ℤ} (hm : 0 < m) (he : 971 < e) :
    stored (.finite s m e hm) = .infinity s := by
  have hpacked : UnpackedFloat.pack Format.binary64 (.finite s m e hm) =
      packedInfinity Format.binary64 s := by
    unfold UnpackedFloat.pack
    dsimp only
    rw [if_pos (by rw [exponentBias_eq]; omega)]
  rw [stored_eq, hpacked]
  exact stored_infinity s

theorem stored_of_full (s : Sign) {m : ℕ} {e : ℤ} (hm : 0 < m) (hlt : m < 2 ^ 53)
    (hfull : 2 ^ 52 ≤ m) (he : -1074 ≤ e) (he' : e ≤ 971) :
    stored (.finite s m e hm) = .finite s m e hm := by
  obtain ⟨k, hk⟩ : ∃ k : ℕ, e + 1075 = k := ⟨(e + 1075).toNat, by omega⟩
  have hbiased : (e + (Format.binary64.exponentBias : ℤ) + ((52 : ℕ) : ℤ)).toNat = k := by
    rw [exponentBias_eq]
    omega
  have hpacked : UnpackedFloat.pack Format.binary64 (.finite s m e hm) =
      packComponents Format.binary64 s (BitVec.ofNat 11 k) (BitVec.ofNat 52 m) := by
    unfold UnpackedFloat.pack
    dsimp only
    rw [if_neg (by rw [hbiased]; omega), if_pos (by rw [log2_of_full hlt hfull]; rfl), hbiased]
  have hexponent : (BitVec.ofNat 11 k).toNat = k := by
    rw [BitVec.toNat_ofNat, Nat.mod_eq_of_lt (by omega)]
  have hmantissa : (1#1 ++ BitVec.ofNat 52 m).toNat = m := by
    rw [toNat_append_implicit, BitVec.toNat_ofNat]
    omega
  have hlargest : BitVec.ofNat 11 k ≠ -1#11 := ofNat_ne_largest (by omega)
  have hleast : BitVec.ofNat 11 k ≠ 0#11 := ofNat_ne_zero (by omega) (by omega)
  rw [stored_eq, hpacked]
  unfold UnpackedFloat.unpack
  simp only [unpackMantissa_packComponents, unpackExponent_packComponents,
    unpackSign_packComponents, ofBitVec_toBitVec, if_neg hlargest, if_neg hleast, hmantissa,
    hexponent, exponentBias_eq]
  congr 1
  push_cast
  omega

theorem stored_of_subnormal (s : Sign) {m : ℕ} (hm : 0 < m) (hlt : m < 2 ^ 52) :
    stored (.finite s m (-1074) hm) = .finite s m (-1074) hm := by
  have hlog : ¬ m.log2 + 1 = Format.binary64.mantissaBits := by
    have hshort : m.log2 < 52 := (Nat.log2_lt hm.ne').mpr hlt
    have hbits : Format.binary64.mantissaBits = 53 := rfl
    omega
  have hpacked : UnpackedFloat.pack Format.binary64 (.finite s m (-1074) hm) =
      packComponents Format.binary64 s 0#11 (BitVec.ofNat 52 m) := by
    unfold UnpackedFloat.pack
    dsimp only
    rw [if_neg (by rw [exponentBias_eq]; decide), if_neg hlog]
  have hmantissa : (BitVec.ofNat 52 m).toNat = m := by
    rw [BitVec.toNat_ofNat, Nat.mod_eq_of_lt hlt]
  have hlargest : 0#11 ≠ -1#11 := by decide
  rw [stored_eq, hpacked]
  unfold UnpackedFloat.unpack
  simp only [unpackMantissa_packComponents, unpackExponent_packComponents,
    unpackSign_packComponents, ofBitVec_toBitVec, if_neg hlargest, dif_neg (ofNat_ne_zero hlt hm),
    hmantissa, exponentBias_eq]
  rfl

/-- What has the canonical form is stored as it is, unless it is too large. -/
theorem stored_canonical (s : Sign) {m : ℕ} {e : ℤ} (hm : 0 < m) (h : Canonical m e) :
    stored (.finite s m e hm) = if e ≤ 971 then .finite s m e hm else .infinity s := by
  split
  · rename_i hle
    by_cases hfull : 2 ^ 52 ≤ m
    · exact stored_of_full s hm h.lt hfull h.exponent_ge hle
    · obtain rfl := h.full.resolve_left hfull
      exact stored_of_subnormal s hm (not_le.mp hfull)
  · rename_i hlarge
    exact stored_of_large s hm (not_le.mp hlarge)

theorem unpack_packComponents_ne (s : Sign) {e : BitVec 11} (he : e ≠ -1#11) (m : BitVec 52) :
    UnpackedFloat.unpack Format.binary64 (packComponents Format.binary64 s e m) ≠
      .notANumber := by
  unfold UnpackedFloat.unpack
  simp only [unpackMantissa_packComponents, unpackExponent_packComponents, if_neg he]
  split
  · split <;> exact nofun
  · exact nofun

/-- A number is stored as a number, whatever its form. -/
theorem stored_ne_notANumber {u : UnpackedFloat} (h : u ≠ .notANumber) :
    stored u ≠ .notANumber := by
  cases u with
  | notANumber => exact absurd rfl h
  | infinity s =>
    rw [stored_infinity]
    exact nofun
  | zero s =>
    rw [stored_zero]
    exact nofun
  | finite s m e hm =>
    rw [stored_eq]
    unfold UnpackedFloat.pack
    dsimp only
    split
    · exact (stored_infinity s).trans_ne nofun
    · rename_i hfits
      split
      · exact unpack_packComponents_ne s (ofNat_ne_largest (by omega)) _
      · exact unpack_packComponents_ne s (by decide) _

/-! ## Rounding -/

theorem mantissa_shiftRight (em : ExtendedMantissa) (k : ℕ) :
    (em >>> k).mantissa = em.mantissa / 2 ^ k := by
  change (k.repeat ExtendedMantissa.shiftRightOne em).mantissa = _
  induction k with
  | zero => simp [Nat.repeat]
  | succ k ih => rw [Nat.repeat, ExtendedMantissa.shiftRightOne, ih, Nat.div_div_eq_div_mul, pow_succ]

theorem shiftRight_exact (m k : ℕ) :
    (⟨m * 2 ^ k, false, false⟩ : ExtendedMantissa) >>> k = ⟨m, false, false⟩ := by
  change k.repeat ExtendedMantissa.shiftRightOne _ = _
  induction k generalizing m with
  | zero => simp [Nat.repeat]
  | succ k ih =>
    have hsplit : m * 2 ^ (k + 1) = 2 * m * 2 ^ k := by ring
    rw [Nat.repeat, hsplit, ih, ExtendedMantissa.shiftRightOne]
    simp

theorem mantissa_le_roundedMantissa (em : ExtendedMantissa) :
    em.mantissa ≤ em.roundedMantissa := by
  unfold ExtendedMantissa.roundedMantissa Accuracy.roundToNearestEven
  split <;> omega

theorem mantissa_ofMantissaAndAccuracy (m : ℕ) (accuracy : Accuracy) :
    (ExtendedMantissa.ofMantissaAndAccuracy m accuracy).mantissa = m := by
  unfold ExtendedMantissa.ofMantissaAndAccuracy
  split <;> rfl

/-- How many bits of a mantissa are dropped. -/
def droppedBits (m : ℕ) (e : ℤ) : ℕ :=
  (Format.binary64.targetExponent (totalExponent m e) - e).toNat

theorem droppedBits_eq (m : ℕ) (e : ℤ) :
    droppedBits m e = (max (m.log2 + 1 + e - 53) (-1074) - e).toNat := rfl

theorem mantissa_shiftToTargetExponent (m : ℕ) (e : ℤ) (accuracy : Accuracy) :
    (shiftToTargetExponent Format.binary64 m e accuracy).1.mantissa = m / 2 ^ droppedBits m e :=
  (mantissa_shiftRight _ _).trans
    (congrArg (· / 2 ^ droppedBits m e) (mantissa_ofMantissaAndAccuracy m accuracy))

theorem exponent_shiftToTargetExponent (m : ℕ) (e : ℤ) (accuracy : Accuracy) :
    (shiftToTargetExponent Format.binary64 m e accuracy).2 = e + droppedBits m e := rfl

theorem shiftToTargetExponent_canonical {m : ℕ} {e : ℤ} (hm : m ≠ 0)
    (h : 2 ^ 52 ≤ m ∨ e ≤ -1074) (accuracy : Accuracy) :
    Canonical (shiftToTargetExponent Format.binary64 m e accuracy).1.mantissa
      (shiftToTargetExponent Format.binary64 m e accuracy).2 := by
  have hlower : 2 ^ m.log2 ≤ m := Nat.log2_self_le hm
  have hupper : m < 2 ^ (m.log2 + 1) := Nat.lt_log2_self
  have hlog : 52 ≤ m.log2 ∨ e ≤ -1074 := h.imp (Nat.le_log2 hm).mpr id
  have hdropped := droppedBits_eq m e
  rw [mantissa_shiftToTargetExponent, exponent_shiftToTargetExponent]
  refine ⟨?_, by omega, ?_⟩
  · rw [Nat.div_lt_iff_lt_mul (Nat.two_pow_pos _), ← pow_add]
    exact hupper.trans_le (Nat.pow_le_pow_right two_pos (by omega))
  · by_cases hleast : e + droppedBits m e = -1074
    · exact .inr hleast
    · left
      rw [Nat.le_div_iff_mul_le (Nat.two_pow_pos _), ← pow_add]
      exact (Nat.pow_le_pow_right two_pos (by omega)).trans hlower

/-- Only what is below the least double is shifted away. -/
theorem shiftToTargetExponent_pos {m : ℕ} {e : ℤ} (h : 2 ^ (-1074 - e).toNat ≤ m)
    (accuracy : Accuracy) :
    0 < (shiftToTargetExponent Format.binary64 m e accuracy).1.mantissa := by
  have hm : m ≠ 0 := ((Nat.two_pow_pos _).trans_le h).ne'
  have hlower : 2 ^ m.log2 ≤ m := Nat.log2_self_le hm
  have hdropped := droppedBits_eq m e
  rw [mantissa_shiftToTargetExponent]
  refine Nat.div_pos ?_ (Nat.two_pow_pos _)
  by_cases hleast : droppedBits m e ≤ m.log2
  · exact (Nat.pow_le_pow_right two_pos hleast).trans hlower
  · exact (Nat.pow_le_pow_right two_pos (by omega)).trans h

/-- What is not below the least double is rounded to a positive mantissa in the canonical form. -/
theorem roundWithAccuracy_pos (s : Sign) {m : ℕ} {e : ℤ} (h : 2 ^ 52 ≤ m ∨ e ≤ -1074)
    (hpos : 2 ^ (-1074 - e).toNat ≤ m) (accuracy : Accuracy) :
    ∃ m' e' hm', roundWithAccuracy Format.binary64 s m e accuracy = .finite s m' e' hm' ∧
      Canonical m' e' := by
  have hm : m ≠ 0 := ((Nat.two_pow_pos _).trans_le hpos).ne'
  have hfirst := shiftToTargetExponent_canonical hm h accuracy
  have hfirst_pos := shiftToTargetExponent_pos hpos accuracy
  unfold roundWithAccuracy
  generalize shiftToTargetExponent Format.binary64 m e accuracy = first at hfirst hfirst_pos
  obtain ⟨em, e₁⟩ := first
  -- Rounding up can take one bit too many, which a second shift drops.
  have hrounded : 0 < em.roundedMantissa := hfirst_pos.trans_le (mantissa_le_roundedMantissa em)
  have hfull : 2 ^ 52 ≤ em.roundedMantissa ∨ e₁ ≤ -1074 :=
    hfirst.full.imp (le_trans · (mantissa_le_roundedMantissa em)) le_of_eq
  have hkept : 2 ^ (-1074 - e₁).toNat ≤ em.roundedMantissa := by
    have hge : -1074 ≤ e₁ := hfirst.exponent_ge
    have hnone : (-1074 - e₁).toNat = 0 := by omega
    rw [hnone, pow_zero]
    exact hrounded
  have hsecond_pos := shiftToTargetExponent_pos hkept .exact
  refine ⟨_, _, hsecond_pos, ?_, shiftToTargetExponent_canonical hrounded.ne' hfull .exact⟩
  simp only [dif_neg hsecond_pos.ne']

theorem log2_mul_two_pow {m : ℕ} (hm : m ≠ 0) (k : ℕ) : (m * 2 ^ k).log2 = m.log2 + k := by
  induction k with
  | zero => rw [pow_zero, mul_one, add_zero]
  | succ k ih =>
    have hdouble : m * 2 ^ (k + 1) = 2 * (m * 2 ^ k) := by ring
    rw [hdouble, Nat.log2_two_mul (mul_ne_zero hm (Nat.two_pow_pos k).ne'), ih, add_assoc]

theorem shiftToTargetExponent_exact {m : ℕ} {e : ℤ} (h : Canonical m e) (hm : 0 < m) (k : ℕ) :
    shiftToTargetExponent Format.binary64 (m * 2 ^ k) (e - k) .exact = (⟨m, false, false⟩, e) := by
  have hdropped : droppedBits (m * 2 ^ k) (e - k) = k := by
    have hge := h.exponent_ge
    rw [droppedBits_eq, log2_mul_two_pow hm.ne']
    rcases h.full with hfull | rfl
    · rw [log2_of_full h.lt hfull]
      push_cast
      omega
    · have hshort : m.log2 < 53 := (Nat.log2_lt hm.ne').mpr h.lt
      push_cast
      omega
  have hshift : shiftToTargetExponent Format.binary64 (m * 2 ^ k) (e - k) .exact =
      ((⟨m * 2 ^ k, false, false⟩ : ExtendedMantissa) >>> droppedBits (m * 2 ^ k) (e - k),
        e - k + droppedBits (m * 2 ^ k) (e - k)) := rfl
  rw [hshift, hdropped, shiftRight_exact, sub_add_cancel]

/-- Rounding gives back what has the canonical form, also with a longer mantissa. -/
theorem roundWithAccuracy_exact (s : Sign) {m : ℕ} {e : ℤ} (h : Canonical m e) (hm : 0 < m)
    (k : ℕ) :
    roundWithAccuracy Format.binary64 s (m * 2 ^ k) (e - k) .exact = .finite s m e hm := by
  have hagain := shiftToTargetExponent_exact h hm 0
  rw [pow_zero, mul_one, Nat.cast_zero, sub_zero] at hagain
  have hrounded : (⟨m, false, false⟩ : ExtendedMantissa).roundedMantissa = m := rfl
  unfold roundWithAccuracy
  simp only [shiftToTargetExponent_exact h hm k, hrounded, hagain, dif_neg hm.ne']

theorem roundWithAccuracy_ne_notANumber (s : Sign) (m : ℕ) (e : ℤ) (accuracy : Accuracy) :
    roundWithAccuracy Format.binary64 s m e accuracy ≠ .notANumber := by
  unfold roundWithAccuracy
  dsimp only
  split <;> exact nofun

end Reckoner.Double
