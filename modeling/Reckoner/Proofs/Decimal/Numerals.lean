import Reckoner.Decimal.Numeral
import Reckoner.Proofs.Text

/-!
# What a numeral is

Digits with an optional point among or around them, and an optional exponent: a mark, an optional sign
and at least one digit. The text of a numeral is read as the decimal that its parts spell.
-/

namespace Reckoner

/-- The exponent part of a numeral. -/
structure Numeral.Exponent where
  mark : Char
  sign : Option Char
  digits : List Char
  mark_eq : mark = 'e' ∨ mark = 'E'
  sign_eq : ∀ c ∈ sign, c = '+' ∨ c = '-'
  digits_ne_nil : digits ≠ []
  isDigit : ∀ c ∈ digits, c.isDigit = true

/-- A numeral in its parts. A digit stands before the point or after it. -/
structure Numeral where
  whole : List Char
  /-- The digits after the point, if there is a point. -/
  places : Option (List Char)
  exponent : Option Numeral.Exponent
  isDigit_whole : ∀ c ∈ whole, c.isDigit = true
  isDigit_places : ∀ ds ∈ places, ∀ c ∈ ds, c.isDigit = true
  hasDigit : whole ≠ [] ∨ ∃ ds ∈ places, ds ≠ []

namespace Numeral

def Exponent.text (e : Exponent) : List Char := e.mark :: (e.sign.toList ++ e.digits)

def Exponent.value (e : Exponent) : Int :=
  if e.sign = some '-' then -Nat.ofDigitChars 10 e.digits 0 else Nat.ofDigitChars 10 e.digits 0

/-- The text before the exponent. -/
def mantissa (n : Numeral) : List Char := n.whole ++ n.places.elim [] ('.' :: ·)

def exponentText (n : Numeral) : List Char := n.exponent.elim [] Exponent.text

def text (n : Numeral) : List Char := n.mantissa ++ n.exponentText

/-- The number spelled by all digits, with the point counted into the exponent. -/
def decimal (n : Numeral) : Decimal where
  digits := Nat.ofDigitChars 10 (n.whole ++ n.places.getD []) 0
  exponent := n.exponent.elim 0 Exponent.value - (n.places.getD []).length

end Numeral

namespace Numeral

variable (n : Numeral)

theorem Exponent.isDigit_mark (e : Exponent) : e.mark.isDigit = false := by
  obtain h | h := e.mark_eq <;> rw [h] <;> rfl

theorem Exponent.mark_ne_point (e : Exponent) : e.mark ≠ '.' := by
  intro h
  exact absurd (h ▸ e.mark_eq) (by decide)

theorem isDigit_head?_exponentText : ∀ c ∈ n.exponentText.head?, c.isDigit = false := by
  intro c hc
  cases h : n.exponent with
  | none => simp [exponentText, h] at hc
  | some e =>
    obtain rfl : e.mark = c := by simpa [exponentText, h, Exponent.text] using hc
    exact e.isDigit_mark

theorem exponentText_ne_point (rest : List Char) : n.exponentText ≠ '.' :: rest := by
  unfold exponentText
  cases n.exponent with
  | none => exact nofun
  | some e => exact fun h => e.mark_ne_point (List.head_eq_of_cons_eq h)

/-- What stands after the digits in front is no digit. -/
theorem isDigit_head?_afterWhole :
    ∀ c ∈ (n.places.elim [] ('.' :: ·) ++ n.exponentText).head?, c.isDigit = false := by
  cases h : n.places with
  | none => exact n.isDigit_head?_exponentText
  | some ds =>
    rintro c ⟨⟩
    rfl

theorem text_ne_nil : n.text ≠ [] := by
  rw [text, mantissa]
  obtain h | ⟨ds, hds, -⟩ := n.hasDigit
  · simp [h]
  · simp [Option.mem_def.mp hds]

/-- A numeral is made of digits, a point, the mark of an exponent and its sign. -/
theorem mem_text {c : Char} (h : c ∈ n.text) : c.isDigit = true ∨ c ∈ ['.', 'e', 'E', '+', '-'] := by
  rcases List.mem_append.mp h with hmantissa | hexponent
  · rcases List.mem_append.mp hmantissa with hwhole | hplaces
    · exact .inl (n.isDigit_whole c hwhole)
    · cases h : n.places with
      | none => simp [h] at hplaces
      | some ds =>
        rw [h, Option.elim_some, List.mem_cons] at hplaces
        rcases hplaces with rfl | hds
        · exact .inr List.mem_cons_self
        · exact .inl (n.isDigit_places ds h c hds)
  · cases h : n.exponent with
    | none => simp [exponentText, h] at hexponent
    | some e =>
      rw [exponentText, h, Option.elim_some, Exponent.text, List.mem_cons, List.mem_append,
        Option.mem_toList] at hexponent
      rcases hexponent with rfl | hsign | hdigits
      · rcases e.mark_eq with hmark | hmark <;> simp [hmark]
      · rcases e.sign_eq c hsign with rfl | rfl <;> simp
      · exact .inl (e.isDigit c hdigits)

/-! ## Reading -/

theorem Exponent.exponentPart?_text (e : Exponent) :
    Decimal.exponentPart? e.text = some e.value := by
  have hall : e.digits.all Char.isDigit = true := List.all_eq_true.mpr e.isDigit
  unfold Decimal.exponentPart? text value
  dsimp only
  rw [if_pos e.mark_eq]
  cases hsign : e.sign with
  | none =>
    -- A digit is neither sign.
    rw [Option.toList_none, List.nil_append]
    split
    · rename_i hminus
      exact absurd (e.isDigit '-' (hminus ▸ List.mem_cons_self)) (by decide)
    · rename_i hplus
      exact absurd (e.isDigit '+' (hplus ▸ List.mem_cons_self)) (by decide)
    · rw [if_pos ⟨e.digits_ne_nil, hall⟩]
      rfl
  | some c =>
    obtain rfl | rfl := e.sign_eq c hsign
    · rw [Option.toList_some, List.singleton_append, if_pos ⟨e.digits_ne_nil, hall⟩]
      rfl
    · rw [Option.toList_some, List.singleton_append, if_pos ⟨e.digits_ne_nil, hall⟩]
      rfl

theorem exponentPart?_exponentText :
    Decimal.exponentPart? n.exponentText = some (n.exponent.elim 0 Exponent.value) := by
  unfold exponentText
  cases n.exponent with
  | none => rfl
  | some e => exact e.exponentPart?_text

/-- The text of a numeral is read as the decimal that it spells. -/
theorem ofNumeral?_text : Decimal.ofNumeral? n.text = some n.decimal := by
  have hwhole : n.text.takeWhile Char.isDigit = n.whole := by
    rw [text, mantissa, List.append_assoc]
    exact Text.takeWhile_append_of_stop n.isDigit_whole n.isDigit_head?_afterWhole
  have hrest : n.text.dropWhile Char.isDigit = n.places.elim [] ('.' :: ·) ++ n.exponentText := by
    rw [text, mantissa, List.append_assoc]
    exact Text.dropWhile_append_of_stop n.isDigit_whole n.isDigit_head?_afterWhole
  have hdigit := n.hasDigit
  unfold Decimal.ofNumeral? decimal
  dsimp only
  rw [hwhole, hrest]
  cases hplaces : n.places with
  | none =>
    have hne : ¬ (n.whole = [] ∧ ([] : List Char) = []) := by simpa [hplaces] using hdigit
    rw [Option.elim_none, List.nil_append]
    split
    · rename_i hpoint
      exact absurd hpoint (n.exponentText_ne_point _)
    · rw [if_neg hne, exponentPart?_exponentText, Option.getD_none, List.append_nil]
      rfl
  | some ds =>
    have hread := Text.takeWhile_append_of_stop (n.isDigit_places ds hplaces)
      n.isDigit_head?_exponentText
    have hleft := Text.dropWhile_append_of_stop (n.isDigit_places ds hplaces)
      n.isDigit_head?_exponentText
    have hne : ¬ (n.whole = [] ∧ ds = []) := by
      rintro ⟨hw, rfl⟩
      simp [hplaces, hw] at hdigit
    simp only [Option.elim_some, List.cons_append, hread, hleft, if_neg hne,
      exponentPart?_exponentText, Option.map_some, Option.getD_some, Nat.ofDigitChars_append]
    rfl

end Numeral

end Reckoner
