import Mathlib
import Reckoner.Proofs.Decimal.Positional

/-!
# Plain text of doubles

Plain text tells all doubles apart, the infinities and the two zeros included. It begins with a minus
sign only for a double with its sign bit set, which no numeral is read as.
-/

namespace Reckoner.Decimal

/-! ## The fields of a double -/

/-- What stands below the sign bit. -/
def magnitudeBits (x : Float) : ℕ := x.toBits.toNat % 2 ^ 63

theorem signBit_eq (x : Float) : signBit x = decide (2 ^ 63 ≤ x.toBits.toNat) := by
  have hlt : x.toBits.toNat < 2 ^ 64 := x.toBits.toNat_lt
  rw [signBit, Bool.eq_iff_iff, beq_iff_eq, decide_eq_true_iff, ← UInt64.toNat_inj,
    UInt64.toNat_shiftRight]
  simp only [UInt64.reduceToNat, Nat.shiftRight_eq_div_pow, Nat.reduceMod]
  omega

/-- Sign and magnitude are all there is to a double. -/
theorem eq_of_fields_eq {x y : Float} (hsign : signBit x = signBit y)
    (hmagnitude : magnitudeBits x = magnitudeBits y) : x = y := by
  have hx : x.toBits.toNat < 2 ^ 64 := x.toBits.toNat_lt
  have hy : y.toBits.toNat < 2 ^ 64 := y.toBits.toNat_lt
  rw [signBit_eq, signBit_eq, decide_eq_decide] at hsign
  unfold magnitudeBits at hmagnitude
  rw [← Float.toBits_inj, ← UInt64.toNat_inj]
  omega

theorem Dyadic.ofFloat_eq_nth (x : Float) : Dyadic.ofFloat x = Dyadic.nth (magnitudeBits x) := by
  have hexponent : ((x.toBits >>> 52) &&& 0x7FF).toNat = magnitudeBits x / 2 ^ 52 := by
    rw [UInt64.toNat_and, UInt64.toNat_shiftRight, magnitudeBits]
    simp only [UInt64.reduceToNat, Nat.shiftRight_eq_div_pow, Nat.reduceMod]
    rw [show (2047 : ℕ) = 2 ^ 11 - 1 from rfl, Nat.and_two_pow_sub_one_eq_mod]
    omega
  have hfraction : (x.toBits &&& 0xFFFFFFFFFFFFF).toNat = magnitudeBits x % 2 ^ 52 := by
    rw [UInt64.toNat_and, magnitudeBits]
    simp only [UInt64.reduceToNat]
    rw [show (4503599627370495 : ℕ) = 2 ^ 52 - 1 from rfl, Nat.and_two_pow_sub_one_eq_mod]
    omega
  unfold ofFloat ofBits nth
  dsimp only
  rw [hexponent, hfraction]
  split
  · rename_i hzero
    rw [Nat.mod_eq_of_lt (by omega)]
  · rfl

/-! ## Special values -/

/-- There is one undefined double. -/
theorem eq_of_isNaN {x y : Float} (hx : x.isNaN = true) (hy : y.isNaN = true) : x = y := by
  rw [Float.isNaN_eq_decide_eq_nan, decide_eq_true_eq] at hx hy
  rw [hx, hy]

open Float.Model in
/-- There is one infinite magnitude. -/
theorem magnitudeBits_of_isInf {x : Float} (h : x.isInf = true) :
    magnitudeBits x = 2047 * 2 ^ 52 := by
  change (UnpackedFloat.unpack Format.binary64 x.toBits.toBitVec).isInf = true at h
  unfold UnpackedFloat.unpack at h
  dsimp only at h
  split at h
  · rename_i hones
    split at h
    · rename_i hnone
      have hexponent := congrArg BitVec.toNat hones
      have hmantissa := congrArg BitVec.toNat hnone
      simp only [UnpackedFloat.unpackExponent, UnpackedFloat.unpackMantissa, BitVec.toNat_cast,
        BitVec.extractLsb_toNat, UInt64.toNat_toBitVec, Nat.shiftRight_eq_div_pow]
        at hexponent hmantissa
      have hall : (-1#11).toNat = 2047 := rfl
      have hzero : (0#52).toNat = 0 := rfl
      unfold magnitudeBits
      omega
    · cases h
  · split at h
    · split at h <;> cases h
    · cases h

/-! ## Telling doubles apart -/

/-- The text of a double without its sign. -/
def magnitudeChars (x : Float) : List Char :=
  if x.isInf then ['i', 'n', 'f'] else positionalText false (Dyadic.ofFloat x).shortest

theorem plain_chars_eq (x : Float) :
    Layout.plain.chars x =
      if x.isNaN then ['N', 'a', 'N']
      else if signBit x then '-' :: magnitudeChars x else magnitudeChars x := rfl

theorem mem_plain_chars {x : Float} {c : Char} (h : c ∈ Layout.plain.chars x) :
    c.isDigit = true ∨ c ∈ ['.', '-', 'N', 'a', 'i', 'n', 'f'] := by
  have magnitude : c ∈ positionalText false (Dyadic.ofFloat x).shortest → c.isDigit = true ∨ c = '.' :=
    mem_positionalText
  rw [plain_chars_eq, magnitudeChars] at h
  grind

theorem head?_magnitudeChars (x : Float) :
    ∃ c ∈ (magnitudeChars x).head?, c.isDigit = true ∨ c = 'i' := by
  unfold magnitudeChars
  split
  · exact ⟨'i', rfl, .inr rfl⟩
  · obtain ⟨c, hc, hdigit⟩ := head?_positionalText false (Dyadic.ofFloat x).shortest
    exact ⟨c, hc, .inl hdigit⟩

theorem magnitudeChars_ne_cons {x : Float} {c : Char} {cs : List Char} (hdigit : c.isDigit = false)
    (hi : c ≠ 'i') : magnitudeChars x ≠ c :: cs := by
  intro h
  obtain ⟨d, hd, hcases⟩ := head?_magnitudeChars x
  rw [h] at hd
  cases hd
  exact hcases.elim (by simp [hdigit]) hi

theorem magnitudeBits_eq_of_chars_eq {x y : Float} (h : magnitudeChars x = magnitudeChars y) :
    magnitudeBits x = magnitudeBits y := by
  unfold magnitudeChars at h
  split at h <;> split at h
  · rename_i hx hy
    rw [magnitudeBits_of_isInf hx, magnitudeBits_of_isInf hy]
  · obtain ⟨c, hc, hdigit⟩ := head?_positionalText false (Dyadic.ofFloat y).shortest
    rw [← h] at hc
    cases hc
    exact absurd hdigit (by decide)
  · obtain ⟨c, hc, hdigit⟩ := head?_positionalText false (Dyadic.ofFloat x).shortest
    rw [h] at hc
    cases hc
    exact absurd hdigit (by decide)
  · have hvalue := value_eq_of_positionalText_eq h
    rw [Dyadic.ofFloat_eq_nth, Dyadic.ofFloat_eq_nth] at hvalue
    exact Dyadic.nth_shortest_value_injective hvalue

theorem plain_chars_of_isNaN {x : Float} (h : x.isNaN = true) :
    Layout.plain.chars x = ['N', 'a', 'N'] := by
  rw [plain_chars_eq, if_pos h]

theorem plain_chars_ne_name {x : Float} (h : x.isNaN = false) :
    Layout.plain.chars x ≠ ['N', 'a', 'N'] := by
  rw [plain_chars_eq, h, if_neg Bool.false_ne_true]
  split
  · exact fun heq => absurd (List.head_eq_of_cons_eq heq) (by decide)
  · exact magnitudeChars_ne_cons (by decide) (by decide)

/-- The sign is read off the first character. -/
theorem signed_chars_inj {x y : Float} {s t : Bool}
    (h : (if s then '-' :: magnitudeChars x else magnitudeChars x) =
      if t then '-' :: magnitudeChars y else magnitudeChars y) :
    s = t ∧ magnitudeChars x = magnitudeChars y := by
  have hminus : ∀ z cs, magnitudeChars z ≠ '-' :: cs :=
    fun z cs => magnitudeChars_ne_cons (by decide) (by decide)
  cases s with
  | true =>
    cases t with
    | true => exact ⟨rfl, List.tail_eq_of_cons_eq h⟩
    | false => exact absurd h.symm (hminus y _)
  | false =>
    cases t with
    | true => exact absurd h (hminus x _)
    | false => exact ⟨rfl, h⟩

/-- No two doubles have the same plain text. -/
theorem plain_chars_injective : Function.Injective Layout.plain.chars := by
  intro x y h
  cases hx : x.isNaN with
  | true =>
    cases hy : y.isNaN with
    | true => exact eq_of_isNaN hx hy
    | false => exact absurd (h.symm.trans (plain_chars_of_isNaN hx)) (plain_chars_ne_name hy)
  | false =>
    cases hy : y.isNaN with
    | true => exact absurd (h.trans (plain_chars_of_isNaN hy)) (plain_chars_ne_name hx)
    | false =>
      rw [plain_chars_eq, plain_chars_eq, hx, hy] at h
      obtain ⟨hsign, hbody⟩ := signed_chars_inj h
      exact eq_of_fields_eq hsign (magnitudeBits_eq_of_chars_eq hbody)

end Reckoner.Decimal
