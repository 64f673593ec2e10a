import Reckoner.Proofs.Text
import Reckoner.Token.Scan

/-!
# Which characters stand in which tokens

A digit starts no name, and a blank stands in none. So what a character is tells which kind of token
it can start.
-/

namespace Reckoner

namespace Lexeme

theorem isNamePart_of_isNameStart {c : Char} (h : isNameStart c = true) : isNamePart c = true := by
  simp only [isNameStart, isNamePart, Text.isAlphanumeric, Bool.or_eq_true] at h ⊢
  exact h.imp_left .inl

theorem isNameStart_of_isDigit {c : Char} (h : c.isDigit = true) : isNameStart c = false := by
  have hdigit : c.toNat < 0x41 := by
    simp only [Char.isDigit, Bool.and_eq_true, decide_eq_true_eq] at h
    exact Nat.lt_of_le_of_lt (UInt32.le_iff_toNat_le.mp h.2) (by decide)
  have hletter : Text.isAlphabetic c = false := if_pos hdigit
  have hunderscore : (c == '_') = false := by
    rw [beq_eq_false_iff_ne]
    rintro rfl
    exact absurd h (by decide)
  rw [isNameStart, hletter, hunderscore]
  rfl

theorem isDigit_of_isBlank {c : Char} (h : Text.isBlank c = true) : c.isDigit = false := by
  have hblanks : (Text.blankRanges.flatMap fun r => List.range' r.1 (r.2 + 1 - r.1)).all
      (fun n => n < 0x30 || 0x39 < n) := by
    decide
  have hc : c.toNat < 0x30 ∨ 0x39 < c.toNat := by
    simpa using List.all_eq_true.mp hblanks _ (Text.mem_of_inRanges h)
  rw [Char.isDigit, Bool.and_eq_false_iff, decide_eq_false_iff_not, decide_eq_false_iff_not]
  refine hc.imp (fun hlow hle => ?_) fun hhigh hle => ?_
  · exact absurd (UInt32.le_iff_toNat_le.mp hle) (Nat.not_le.mpr hlow)
  · exact absurd (UInt32.le_iff_toNat_le.mp hle) (Nat.not_le.mpr hhigh)

theorem isNamePart_of_isBlank {c : Char} (h : Text.isBlank c = true) : isNamePart c = false := by
  have hblanks : (Text.blankRanges.flatMap fun r => List.range' r.1 (r.2 + 1 - r.1)).all
      (fun n => !(Text.inRanges Text.alphabeticRanges n || Text.inRanges Text.numericRanges n)) := by
    decide +kernel
  have hletter : (!Text.isAlphanumeric c) = true :=
    List.all_eq_true.mp hblanks _ (Text.mem_of_inRanges h)
  have hunderscore : (c == '_') = false := by
    rw [beq_eq_false_iff_ne]
    rintro rfl
    exact absurd h (by decide)
  rw [isNamePart, hunderscore, Bool.or_false]
  simpa using hletter

theorem isBlank_of_isNamePart {c : Char} (h : isNamePart c = true) : Text.isBlank c = false := by
  cases hblank : Text.isBlank c with
  | false => rfl
  | true =>
    rw [isNamePart_of_isBlank hblank] at h
    cases h

end Lexeme

end Reckoner
