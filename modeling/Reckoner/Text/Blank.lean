import Reckoner.Text.CodeRange

/-!
# Blanks

The twenty-five characters with the Unicode property White_Space, and trimming by them.
-/

namespace Reckoner.Text

def blankRanges : List (Nat × Nat) :=
  [(0x9, 0xD), (0x20, 0x20), (0x85, 0x85), (0xA0, 0xA0), (0x1680, 0x1680), (0x2000, 0x200A),
   (0x2028, 0x2029), (0x202F, 0x202F), (0x205F, 0x205F), (0x3000, 0x3000)]

def isBlank (c : Char) : Bool := inRanges blankRanges c.toNat

/-- A text without the blanks at either end. -/
def trimChars (cs : List Char) : List Char :=
  ((cs.dropWhile isBlank).reverse.dropWhile isBlank).reverse

/-- Trimming stops at once at a character that is no blank. -/
theorem trimChars_cons {c : Char} (h : isBlank c = false) (cs : List Char) :
    trimChars (c :: cs) = c :: (cs.reverse.dropWhile isBlank).reverse := by
  have hc : ∀ rest, (c :: rest).dropWhile isBlank = c :: rest := fun rest =>
    List.dropWhile_cons_of_neg (by simp [h])
  unfold trimChars
  rw [hc, List.reverse_cons, List.dropWhile_append, hc]
  cases hblank : cs.reverse.dropWhile isBlank with
  | nil => rfl
  | cons d ds => exact List.reverse_concat

def trim (s : String) : String := String.ofList (trimChars s.toList)

end Reckoner.Text
