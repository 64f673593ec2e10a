/-!
# Ranges of code points

A character property is kept as closed ranges of code points, ascending and apart.
-/

namespace Reckoner.Text

/-- Membership in ascending ranges; the search stops at the first range above the code point. -/
def inRanges : List (Nat × Nat) → Nat → Bool
  | [], _ => false
  | (lo, hi) :: rest, n => if n < lo then false else n ≤ hi || inRanges rest n

/-- Each range is non-empty and ends before the next begins. -/
def ascending : List (Nat × Nat) → Bool
  | [] => true
  | [r] => r.1 ≤ r.2
  | r :: s :: rest => r.1 ≤ r.2 && r.2 < s.1 && ascending (s :: rest)

end Reckoner.Text
