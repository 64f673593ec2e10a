import Reckoner.Proofs.Decimal.Positional
import Reckoner.Display

/-!
# Numbers as they are displayed

A finite number is displayed as a numeral with the given number of decimals that is nearest to it, with
a minus sign only if that numeral is not zero. Every other number is displayed as the sentinel. A
percentage is such a numeral of a hundred times the fraction, unless this product is too large: then the
sentinel itself gets the percent sign.
-/

namespace Reckoner

/-- A numeral with a number of decimals: digits before the point, a point only in front of decimals,
and no exponent. -/
structure Numeral.HasDecimals (n : Numeral) (decimals : ℕ) : Prop where
  whole_ne_nil : n.whole ≠ []
  length_places : (n.places.getD []).length = decimals
  places_ne_nil : n.places ≠ some []
  exponent_eq : n.exponent = none

namespace Decimal

/-! ## Rounding to places -/

theorem roundDiv_bounds (num : ℕ) {den : ℕ} (hden : 0 < den) :
    2 * num ≤ 2 * (roundDiv num den * den) + den ∧ 2 * (roundDiv num den * den) ≤ 2 * num + den := by
  have hsplit : num / den * den + num % den = num := Nat.div_add_mod' num den
  have hrest : num % den < den := Nat.mod_lt num hden
  have hnext : (num / den + 1) * den = num / den * den + den := Nat.succ_mul _ _
  unfold roundDiv
  dsimp only
  split
  · omega
  · split
    · omega
    · split <;> omega

/-- The rounded quotient is no more than half away from the quotient. -/
theorem abs_roundDiv_sub_le (num : ℕ) {den : ℕ} (hden : 0 < den) :
    |(roundDiv num den : ℚ) - num / den| ≤ 1 / 2 := by
  obtain ⟨hlow, hhigh⟩ := roundDiv_bounds num hden
  have hpos : (0 : ℚ) < den := Nat.cast_pos.mpr hden
  have hlow' : 2 * (num : ℚ) ≤ 2 * (roundDiv num den * den) + den := by exact_mod_cast hlow
  have hhigh' : 2 * ((roundDiv num den : ℚ) * den) ≤ 2 * num + den := by exact_mod_cast hhigh
  have habove : (num : ℚ) / den ≤ roundDiv num den + 1 / 2 := by
    rw [div_le_iff₀ hpos, add_mul]
    linarith
  have hbelow : (roundDiv num den : ℚ) - 1 / 2 ≤ num / den := by
    rw [le_div_iff₀ hpos, sub_mul]
    linarith
  rw [abs_le]
  constructor <;> linarith

theorem Dyadic.denominator_pos (v : Dyadic) : 0 < v.denominator := Nat.pow_pos (by decide)

theorem Dyadic.numerator_div_denominator (v : Dyadic) : (v.numerator : ℚ) / v.denominator = v.value := by
  have htwo : ((2 : ℕ) : ℚ) ≠ 0 := by norm_num
  have hden : (v.denominator : ℚ) ≠ 0 := Nat.cast_ne_zero.mpr v.denominator_pos.ne'
  rw [div_eq_iff hden, value, denominator, numerator, cast_natPow, mul_assoc, zpow_mul_toNat htwo,
    Nat.cast_mul, cast_natPow]

/-! ## Text with places -/

/-- The digits of `n`, with as many zeros in front that one more than `places` stand there. -/
def paddedText (places n : ℕ) : List Char :=
  List.replicate (places + 1 - (digitText n).length) '0' ++ digitText n

theorem lt_length_paddedText (places n : ℕ) : places < (paddedText places n).length := by
  rw [paddedText, List.length_append, List.length_replicate]
  omega

theorem isDigit_of_mem_paddedText {places n : ℕ} {c : Char} (h : c ∈ paddedText places n) :
    c.isDigit = true := by
  rcases List.mem_append.mp h with h | h
  · exact isDigit_of_mem_replicate h
  · exact isDigit_of_mem_digitText h

theorem ofDigits_paddedText (places n : ℕ) : ofDigits 0 (paddedText places n) = n :=
  ofDigits_zeros_append_digitText n _

theorem placesText_eq (places n : ℕ) :
    placesText places n =
      if places = 0 then paddedText places n
      else (paddedText places n).take ((paddedText places n).length - places) ++
        '.' :: (paddedText places n).drop ((paddedText places n).length - places) := rfl

/-- A whole number of units of the last place is written as a numeral with that many decimals. -/
theorem exists_numeral_placesText (places k : ℕ) :
    ∃ n : Numeral, placesText places k = n.text ∧ n.HasDecimals places ∧
      n.decimal = ⟨k, -(places : ℤ)⟩ := by
  have hlength := lt_length_paddedText places k
  have hvalue := ofDigits_paddedText places k
  have hdigit : ∀ c ∈ paddedText places k, c.isDigit = true := fun c => isDigit_of_mem_paddedText
  rw [placesText_eq]
  generalize paddedText places k = ds at *
  by_cases hplaces : places = 0
  · subst hplaces
    have hne : ds ≠ [] := List.length_pos_iff.mp hlength
    refine ⟨⟨ds, none, none, hdigit, nofun, .inl hne⟩, ?_, ⟨hne, rfl, nofun, rfl⟩, ?_⟩
    · simp [Numeral.text, Numeral.mantissa, Numeral.exponentText]
    · simp [Numeral.decimal, ← ofDigits_eq, hvalue]
  · have hne : ds.take (ds.length - places) ≠ [] := by
      rw [← List.length_pos_iff, List.length_take]
      omega
    have hdrop : (ds.drop (ds.length - places)).length = places := by
      rw [List.length_drop]
      omega
    have hfraction : ∀ fraction ∈ some (ds.drop (ds.length - places)), ∀ c ∈ fraction,
        c.isDigit = true := by
      rintro _ ⟨⟩ c hc
      exact hdigit c (List.mem_of_mem_drop hc)
    refine ⟨⟨ds.take (ds.length - places), some (ds.drop (ds.length - places)), none,
      fun c hc => hdigit c (List.mem_of_mem_take hc), hfraction, .inl hne⟩, ?_, ⟨hne, hdrop, ?_, rfl⟩, ?_⟩
    · simp [Numeral.text, Numeral.mantissa, Numeral.exponentText, hplaces]
    · intro hnone
      rw [Option.some.inj hnone] at hdrop
      exact hplaces hdrop.symm
    · simp only [Numeral.decimal, Option.getD_some, List.take_append_drop, ← ofDigits_eq, hvalue,
        hdrop, Option.elim_none, zero_sub]

theorem mem_placesText {places k : ℕ} {c : Char} :
    c ∈ placesText places k ↔ c ∈ paddedText places k ∨ places ≠ 0 ∧ c = '.' := by
  rw [placesText_eq]
  split
  · rename_i hplaces
    simp [hplaces]
  · rename_i hplaces
    have hparts := List.take_append_drop ((paddedText places k).length - places) (paddedText places k)
    rw [← hparts, List.mem_append, List.mem_append, List.mem_cons, hparts]
    rw [or_left_comm, or_comm, and_iff_right hplaces]

theorem eq_zero_of_mem_paddedText {places : ℕ} {c : Char} (h : c ∈ paddedText places 0) : c = '0' := by
  rcases List.mem_append.mp h with h | h
  · exact List.eq_of_mem_replicate h
  · exact List.mem_singleton.mp h

/-- The text says zero exactly when it holds nothing but zeros and a point. -/
theorem placesText_all_iff (places k : ℕ) :
    (placesText places k).all (fun c => c == '0' || c == '.') = true ↔ k = 0 := by
  rw [List.all_eq_true]
  constructor
  · intro h
    have hzeros : ∀ c ∈ paddedText places k, c = '0' := by
      intro c hc
      rcases Bool.or_eq_true_iff.mp (h c (mem_placesText.mpr (.inl hc))) with hzero | hpoint
      · exact eq_of_beq hzero
      · have hdigit := isDigit_of_mem_paddedText hc
        rw [eq_of_beq hpoint] at hdigit
        cases hdigit
    have hvalue := ofDigits_paddedText places k
    rw [List.eq_replicate_of_mem hzeros, ofDigits_eq, Nat.ofDigitChars_replicate_zero] at hvalue
    simpa using hvalue.symm
  · rintro rfl c hc
    rcases mem_placesText.mp hc with hpadded | ⟨-, rfl⟩
    · rw [eq_zero_of_mem_paddedText hpadded]
      rfl
    · rfl

end Decimal

namespace Display

open Decimal

/-! ## Displayed numbers -/

/-- The numeral is as near to the number as its last place allows. -/
def IsNearest (n : Numeral) (decimals : ℕ) (value : Float) : Prop :=
  |n.decimal.value - (Dyadic.ofFloat value).value| * 10 ^ decimals ≤ 1 / 2

/-- The text of a finite number with a number of decimals: a numeral nearest to it, behind a minus sign
when the number has one and the numeral is not zero. -/
inductive Shows (value : Float) (decimals : ℕ) : List Char → Prop where
  | unsigned (n : Numeral) (fixed : n.HasDecimals decimals) (nearest : IsNearest n decimals value)
      (sign : signBit value = false ∨ n.decimal.digits = 0) : Shows value decimals n.text
  | negative (n : Numeral) (fixed : n.HasDecimals decimals) (nearest : IsNearest n decimals value)
      (sign : signBit value = true) (nonzero : n.decimal.digits ≠ 0) :
      Shows value decimals ('-' :: n.text)

/-- Rounding the magnitude to whole units of the last place gives the nearest numeral. -/
theorem isNearest_of_decimal_eq {n : Numeral} {decimals : ℕ} {value : Float}
    (h : n.decimal = ⟨roundDiv ((Dyadic.ofFloat value).numerator * Nat.pow 10 decimals)
      (Dyadic.ofFloat value).denominator, -(decimals : ℤ)⟩) : IsNearest n decimals value := by
  generalize hv : Dyadic.ofFloat value = v at h
  have hround := abs_roundDiv_sub_le (v.numerator * Nat.pow 10 decimals) v.denominator_pos
  have hten : (0 : ℚ) < 10 ^ decimals := by positivity
  have hscaled : ((v.numerator * Nat.pow 10 decimals : ℕ) : ℚ) / v.denominator =
      v.value * 10 ^ decimals := by
    rw [Nat.cast_mul, cast_natPow, mul_div_right_comm, v.numerator_div_denominator, Nat.cast_ofNat]
  rw [IsNearest, hv, h, ← abs_of_pos hten, ← abs_mul, sub_mul, Decimal.value, zpow_neg, zpow_natCast,
    Nat.cast_ofNat, inv_mul_cancel_right₀ hten.ne', ← hscaled]
  exact hround

theorem dropZeroSign_of_ne {cs : List Char} (h : ∀ rest, cs ≠ '-' :: rest) : dropZeroSign cs = cs := by
  unfold dropZeroSign
  split
  · exact absurd rfl (h _)
  · rfl

theorem text_ne_minus {n : Numeral} {decimals : ℕ} (h : n.HasDecimals decimals) (rest : List Char) :
    n.text ≠ '-' :: rest := by
  obtain ⟨c, more, hwhole⟩ := List.exists_cons_of_ne_nil h.whole_ne_nil
  intro heq
  rw [Numeral.text, Numeral.mantissa, hwhole] at heq
  obtain rfl : c = '-' := List.head_eq_of_cons_eq heq
  have hdigit := n.isDigit_whole '-' (hwhole ▸ List.mem_cons_self)
  cases hdigit

theorem shows_dropZeroSign {value : Float} (hfinite : value.isFinite = true) (decimals : ℕ) :
    Shows value decimals (dropZeroSign (fixedChars decimals value)) := by
  unfold fixedChars
  dsimp only
  rw [if_pos hfinite]
  generalize hk : roundDiv ((Dyadic.ofFloat value).numerator * Nat.pow 10 decimals)
    (Dyadic.ofFloat value).denominator = k
  obtain ⟨n, htext, hfixed, hdecimal⟩ := exists_numeral_placesText decimals k
  have hnearest : IsNearest n decimals value := isNearest_of_decimal_eq (hk ▸ hdecimal)
  have hdigits : n.decimal.digits = k := by rw [hdecimal]
  cases hsign : signBit value with
  | false =>
    rw [if_neg Bool.false_ne_true, htext, dropZeroSign_of_ne (text_ne_minus hfixed)]
    exact .unsigned n hfixed hnearest (.inl hsign)
  | true =>
    rw [if_pos rfl, dropZeroSign]
    by_cases hzero : k = 0
    · rw [if_pos ((placesText_all_iff decimals k).mpr hzero), htext]
      exact .unsigned n hfixed hnearest (.inr (hdigits.trans hzero))
    · rw [if_neg fun hall => hzero ((placesText_all_iff decimals k).mp hall), htext]
      exact .negative n hfixed hnearest hsign (hdigits.trans_ne hzero)

theorem shows_number {value : Float} (hfinite : value.isFinite = true) (decimals : ℕ) :
    Shows value decimals (number value decimals).toList := by
  rw [number, if_pos hfinite, String.toList_ofList]
  exact shows_dropZeroSign hfinite decimals

theorem number_of_not_finite {value : Float} (h : value.isFinite = false) (decimals : ℕ) :
    number value decimals = errorSentinel := by
  rw [number, if_neg (by simp [h])]

/-- A displayed number is a numeral with the given number of decimals, never a negative zero, or the
sentinel, when the number is not finite. A displayed percentage is the sentinel when the fraction is
not finite, and otherwise what is displayed for a hundred times the fraction, with a percent sign: a
numeral unless this product is not finite. -/
theorem number_and_percent (value : Float) (decimals : ℕ) :
    (if value.isFinite then Shows value decimals (number value decimals).toList
      else number value decimals = errorSentinel) ∧
    if value.isFinite then
      if (value * 100.0).isFinite then
        ∃ cs, Shows (value * 100.0) decimals cs ∧ (percent value decimals).toList = cs ++ ['%']
      else percent value decimals = errorSentinel ++ "%"
    else percent value decimals = errorSentinel := by
  cases hfinite : value.isFinite with
  | false =>
    simp only [Bool.false_eq_true, if_false]
    exact ⟨number_of_not_finite hfinite decimals, by rw [percent, if_neg (by simp [hfinite])]⟩
  | true =>
    simp only [if_true]
    refine ⟨shows_number hfinite decimals, ?_⟩
    rw [percent, if_pos hfinite]
    cases hproduct : (value * 100.0).isFinite with
    | false =>
      simp only [Bool.false_eq_true, if_false]
      rw [number_of_not_finite hproduct]
    | true =>
      simp only [if_true]
      exact ⟨_, shows_number hproduct decimals, String.toList_append⟩

/-- A finite fraction too large for a percentage. -/
example : percent 1e307 2 = "Error%" := by decide +kernel

end Display

end Reckoner
