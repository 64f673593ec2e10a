import Reckoner.Proofs.Decimal.Covering
import Reckoner.Proofs.Decimal.Numerals
import Reckoner.Decimal.Layout

/-!
# Reading positional text

Digits laid out around a point are read as a numeral that stands for the same number, so that two
texts are equal only when they stand for one number.
-/

namespace Reckoner.Decimal

theorem isDigit_of_mem_digitText {n : ℕ} {c : Char} (h : c ∈ digitText n) : c.isDigit = true :=
  Nat.isDigit_of_mem_toDigits (by decide) (by decide) h

theorem digitText_ne_nil (n : ℕ) : digitText n ≠ [] := Nat.toDigits_ne_nil

theorem mem_positionalText {pointZero : Bool} {d : Decimal} {c : Char}
    (h : c ∈ positionalText pointZero d) : c.isDigit = true ∨ c = '.' := by
  have digit : c ∈ digitText d.digits → c.isDigit = true := isDigit_of_mem_digitText
  have zero : c = '0' → c.isDigit = true := by rintro rfl; decide
  unfold positionalText at h
  cases pointZero <;> grind [List.mem_of_mem_take, List.mem_of_mem_drop]

theorem ofDigits_eq (start : ℕ) (ds : List Char) : ofDigits start ds = Nat.ofDigitChars 10 ds start :=
  rfl

theorem ofDigits_digitText (n : ℕ) : ofDigits 0 (digitText n) = n :=
  Nat.ofDigitChars_ten_toDigits

/-! ## Numerals without an exponent part -/

section

variable {whole places : List Char}

theorem ofNumeral?_whole (hwhole : ∀ c ∈ whole, c.isDigit = true) (hne : whole ≠ []) :
    ofNumeral? whole = some ⟨ofDigits 0 whole, 0⟩ := by
  have hread := Numeral.ofNumeral?_text ⟨whole, none, none, hwhole, nofun, .inl hne⟩
  simpa [Numeral.text, Numeral.mantissa, Numeral.exponentText, Numeral.decimal, ofDigits_eq]
    using hread

theorem ofNumeral?_point (hwhole : ∀ c ∈ whole, c.isDigit = true) (hne : whole ≠ [])
    (hplaces : ∀ c ∈ places, c.isDigit = true) :
    ofNumeral? (whole ++ '.' :: places) = some ⟨ofDigits 0 (whole ++ places), -places.length⟩ := by
  have hread := Numeral.ofNumeral?_text ⟨whole, some places, none, hwhole, by simpa using hplaces,
    .inl hne⟩
  simpa [Numeral.text, Numeral.mantissa, Numeral.exponentText, Numeral.decimal, ofDigits_eq]
    using hread

end

/-! ## Positional text -/

theorem isDigit_of_mem_replicate {k : ℕ} {c : Char} (h : c ∈ List.replicate k '0') :
    c.isDigit = true := by
  rw [List.eq_of_mem_replicate h]
  rfl

theorem ofDigits_digitText_append_zeros (n k : ℕ) :
    ofDigits 0 (digitText n ++ List.replicate k '0') = n * 10 ^ k := by
  have hdigits : Nat.ofDigitChars 10 (digitText n) 0 = n := ofDigits_digitText n
  rw [ofDigits_eq, Nat.ofDigitChars_append, hdigits, Nat.ofDigitChars_replicate_zero, Nat.mul_comm]

theorem ofDigits_zeros_append_digitText (n k : ℕ) :
    ofDigits 0 (List.replicate k '0' ++ digitText n) = n := by
  rw [ofDigits_eq, Nat.ofDigitChars_append, Nat.ofDigitChars_replicate_zero]
  exact ofDigits_digitText n

/-- The text of a decimal is a numeral for the same number. -/
theorem exists_ofNumeral?_positionalText (d : Decimal) :
    ∃ d', ofNumeral? (positionalText false d) = some d' ∧ d'.value = d.value := by
  have hdigit : ∀ c ∈ digitText d.digits, c.isDigit = true := fun c => isDigit_of_mem_digitText
  have hzeros : ∀ k, ∀ c ∈ List.replicate k '0', c.isDigit = true :=
    fun k c => isDigit_of_mem_replicate
  unfold positionalText
  dsimp only
  split
  · -- A whole number takes its zeros into its digits.
    rename_i hexponent
    obtain ⟨k, hk⟩ := Int.eq_ofNat_of_zero_le hexponent
    have hne : digitText d.digits ++ List.replicate k '0' ≠ [] := by simp [digitText_ne_nil]
    rw [if_neg Bool.false_ne_true, List.append_nil, hk, Int.toNat_natCast,
      ofNumeral?_whole (List.forall_mem_append.mpr ⟨hdigit, hzeros k⟩) hne]
    refine ⟨_, rfl, ?_⟩
    rw [value, value, ofDigits_digitText_append_zeros, hk]
    simp
  · rename_i hexponent
    obtain ⟨k, hk⟩ := Int.eq_ofNat_of_zero_le (by omega : 0 ≤ -d.exponent)
    rw [hk, Int.toNat_natCast]
    refine ⟨d, ?_, rfl⟩
    split
    · rename_i hinside
      have hplaces : ((digitText d.digits).length - ((digitText d.digits).length - k) : ℕ) = k := by
        omega
      have hne : (digitText d.digits).take ((digitText d.digits).length - k) ≠ [] := by
        rw [ne_eq, List.take_eq_nil_iff]
        simp only [digitText_ne_nil, or_false]
        omega
      rw [ofNumeral?_point (fun c hc => hdigit c (List.mem_of_mem_take hc)) hne
        fun c hc => hdigit c (List.mem_of_mem_drop hc), List.take_append_drop, ofDigits_digitText,
        List.length_drop, hplaces, ← hk, neg_neg]
    · rename_i hbefore
      have hplaces : (List.replicate (k - (digitText d.digits).length) '0' ++
          digitText d.digits).length = k := by
        rw [List.length_append, List.length_replicate]
        omega
      have hwhole : ∀ c ∈ ['0'], c.isDigit = true := by simp
      have hvalue : ofDigits 0 (['0'] ++ (List.replicate (k - (digitText d.digits).length) '0' ++
          digitText d.digits)) = d.digits := by
        rw [← List.append_assoc]
        exact ofDigits_zeros_append_digitText d.digits (_ + 1)
      have hread := ofNumeral?_point hwhole (List.cons_ne_nil _ _)
        (List.forall_mem_append.mpr ⟨hzeros (k - (digitText d.digits).length), hdigit⟩)
      rw [hvalue, hplaces, ← hk, neg_neg] at hread
      exact hread

theorem value_eq_of_positionalText_eq {d e : Decimal}
    (h : positionalText false d = positionalText false e) : d.value = e.value := by
  obtain ⟨d', hd, hvalue⟩ := exists_ofNumeral?_positionalText d
  obtain ⟨e', he, hvalue'⟩ := exists_ofNumeral?_positionalText e
  rw [h, he] at hd
  cases hd
  exact hvalue.symm.trans hvalue'

/-- The text begins with a digit. -/
theorem head?_positionalText (pointZero : Bool) (d : Decimal) :
    ∃ c ∈ (positionalText pointZero d).head?, c.isDigit = true := by
  have hdigit : ∀ c ∈ digitText d.digits, c.isDigit = true := fun c => isDigit_of_mem_digitText
  obtain ⟨c, cs, hcs⟩ := List.exists_cons_of_ne_nil (digitText_ne_nil d.digits)
  have hc : c.isDigit = true := hdigit c (hcs ▸ List.mem_cons_self)
  unfold positionalText
  dsimp only
  split
  · exact ⟨c, by rw [hcs]; rfl, hc⟩
  · split
    · rename_i hinside
      obtain ⟨n, hn⟩ : ∃ n, (digitText d.digits).length - (-d.exponent).toNat = n + 1 :=
        Nat.exists_eq_succ_of_ne_zero (by omega)
      exact ⟨c, by rw [hn, hcs]; rfl, hc⟩
    · exact ⟨'0', rfl, rfl⟩

end Reckoner.Decimal
