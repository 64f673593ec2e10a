import Reckoner.Proofs.Decimal.PlainText

/-!
# Numerals have no sign

No numeral is read as a double with its sign bit set: rounding keeps the sign, and the signs of factors
and of quotients come from those of their operands.
-/

namespace Reckoner.Decimal

open Float.Model

/-- The sign, where there is one, is positive. -/
inductive IsUnsigned : UnpackedFloat → Prop where
  | infinity : IsUnsigned (.infinity .positive)
  | notANumber : IsUnsigned .notANumber
  | zero : IsUnsigned (.zero .positive)
  | finite (mantissa : ℕ) (exponent : ℤ) (pos : 0 < mantissa) :
      IsUnsigned (.finite .positive mantissa exponent pos)

theorem toNat_packComponents_lt (exponent : BitVec 11) (mantissa : BitVec 52) :
    (UnpackedFloat.packComponents Format.binary64 .positive exponent mantissa).toNat < 2 ^ 63 := by
  have hexponent : exponent.toNat < 2 ^ 11 := exponent.isLt
  have hmantissa : mantissa.toNat < 2 ^ 52 := mantissa.isLt
  have happend : (UnpackedFloat.packComponents Format.binary64 .positive exponent mantissa).toNat =
      exponent.toNat * 2 ^ 52 + mantissa.toNat := by
    unfold UnpackedFloat.packComponents
    rw [BitVec.toNat_append, BitVec.toNat_append, ← Nat.shiftLeft_add_eq_or_of_lt hmantissa]
    simp [UnpackedFloat.Sign.toBitVec, Nat.shiftLeft_eq]
  omega

theorem signBit_pack {u : UnpackedFloat} (h : IsUnsigned u) :
    signBit (Float.ofModel (Float.Model.pack u)) = false := by
  rw [signBit_eq, decide_eq_false_iff_not, not_le]
  change (UnpackedFloat.pack Format.binary64 u).toNat < 2 ^ 63
  cases h with
  | infinity => exact toNat_packComponents_lt _ _
  | notANumber => exact toNat_packComponents_lt _ _
  | zero => exact toNat_packComponents_lt _ _
  | finite mantissa exponent pos =>
    unfold UnpackedFloat.pack
    dsimp only
    split
    · exact toNat_packComponents_lt _ _
    · split <;> exact toNat_packComponents_lt _ _

theorem unpackSign_of_signBit {x : Float} (h : signBit x = false) :
    @UnpackedFloat.unpackSign Format.binary64 x.toBits.toBitVec = 0#1 := by
  have hzero : (0#1).toNat = 0 := rfl
  rw [signBit_eq, decide_eq_false_iff_not, not_le] at h
  apply BitVec.eq_of_toNat_eq
  simp only [UnpackedFloat.unpackSign, BitVec.toNat_cast, BitVec.extractLsb_toNat,
    UInt64.toNat_toBitVec, Nat.shiftRight_eq_div_pow]
  omega

theorem isUnsigned_unpack {x : Float} (h : signBit x = false) : IsUnsigned x.toModel.unpack := by
  have hsign : UnpackedFloat.Sign.ofBitVec
      (@UnpackedFloat.unpackSign Format.binary64 x.toBits.toBitVec) = .positive :=
    if_pos (unpackSign_of_signBit h)
  change IsUnsigned (UnpackedFloat.unpack Format.binary64 x.toBits.toBitVec)
  unfold UnpackedFloat.unpack
  dsimp only
  rw [hsign]
  split
  · split
    · exact .infinity
    · exact .notANumber
  · split
    · split
      · exact .zero
      · exact .finite ..
    · exact .finite ..

theorem isUnsigned_roundWithAccuracy (spec : Format) (mantissa : ℕ) (exponent : ℤ)
    (accuracy : UnpackedFloat.Accuracy) :
    IsUnsigned (UnpackedFloat.roundWithAccuracy spec .positive mantissa exponent accuracy) := by
  unfold UnpackedFloat.roundWithAccuracy
  dsimp only
  split
  · exact .zero
  · exact .finite ..

theorem IsUnsigned.mul {u v : UnpackedFloat} (spec : Format) (hu : IsUnsigned u) (hv : IsUnsigned v) :
    IsUnsigned (UnpackedFloat.mul spec u v) := by
  cases hu <;> cases hv <;>
    first
    | exact .infinity
    | exact .notANumber
    | exact .zero
    | exact isUnsigned_roundWithAccuracy ..

theorem IsUnsigned.div {u v : UnpackedFloat} (spec : Format) (hu : IsUnsigned u) (hv : IsUnsigned v) :
    IsUnsigned (UnpackedFloat.div spec u v) := by
  cases hu <;> cases hv <;>
    first
    | exact .infinity
    | exact .notANumber
    | exact .zero
    | exact isUnsigned_roundWithAccuracy ..

theorem isUnsigned_ofNat (spec : Format) (n : ℕ) : IsUnsigned (UnpackedFloat.ofNat spec n) := by
  unfold UnpackedFloat.ofNat UnpackedFloat.ofInt UnpackedFloat.normalize
  split
  · rename_i h
    rw [compare_lt_iff_lt] at h
    omega
  · exact .zero
  · exact isUnsigned_roundWithAccuracy ..

theorem isUnsigned_ofScientific (spec : Format) (m : ℕ) (e : ℤ) :
    IsUnsigned (UnpackedFloat.ofScientific spec m e) := by
  unfold UnpackedFloat.ofScientific
  split
  · exact .zero
  · split
    · exact .infinity
    · split
      · exact .zero
      · split
        · exact .mul spec (.finite ..) (.finite ..)
        · exact .div spec (.finite ..) (.finite ..)

/-! ## Reading numerals -/

theorem signBit_mul {x y : Float} (hx : signBit x = false) (hy : signBit y = false) :
    signBit (x * y) = false :=
  signBit_pack (.mul _ (isUnsigned_unpack hx) (isUnsigned_unpack hy))

theorem signBit_div {x y : Float} (hx : signBit x = false) (hy : signBit y = false) :
    signBit (x / y) = false :=
  signBit_pack (.div _ (isUnsigned_unpack hx) (isUnsigned_unpack hy))

theorem signBit_powerOfTen :
    ∀ x ∈ Float.exactlyRepresentablePowersOfTen.toList, signBit x = false := by
  decide +kernel

theorem signBit_ofScientific (m : ℕ) (s : Bool) (e : ℕ) :
    signBit (Float.ofScientific m s e) = false := by
  unfold Float.ofScientific
  split
  · have hdigits : signBit m.toUInt64.toFloat = false := signBit_pack (isUnsigned_ofNat _ _)
    dsimp only
    split
    · exact signBit_div hdigits (signBit_powerOfTen _ (Array.getElem_mem_toList _))
    · exact signBit_mul hdigits (signBit_powerOfTen _ (Array.getElem_mem_toList _))
  · exact signBit_pack (isUnsigned_ofScientific _ _ _)

/-- A number read from a numeral has its sign bit clear. -/
theorem signBit_toFloat (d : Decimal) : signBit d.toFloat = false := by
  unfold toFloat
  dsimp only
  split
  · exact signBit_ofScientific 0 true 1
  · split
    · exact signBit_div (signBit_ofScientific 10 true 1) (signBit_ofScientific 0 true 1)
    · split
      · exact signBit_ofScientific 0 true 1
      · exact signBit_ofScientific ..

/-- The text of a number read from a numeral is the name of a special value or begins with a digit. -/
theorem plain_chars_toFloat (d : Decimal) :
    Layout.plain.chars d.toFloat ∈ [['N', 'a', 'N'], ['i', 'n', 'f']] ∨
      ∃ c ∈ (Layout.plain.chars d.toFloat).head?, c.isDigit = true := by
  rw [plain_chars_eq, signBit_toFloat, if_neg Bool.false_ne_true, magnitudeChars]
  split
  · exact .inl List.mem_cons_self
  · split
    · exact .inl (List.mem_cons_of_mem _ List.mem_cons_self)
    · exact .inr (head?_positionalText _ _)

end Reckoner.Decimal
