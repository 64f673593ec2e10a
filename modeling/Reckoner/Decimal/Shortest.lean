import Reckoner.Decimal.Dyadic

/-!
# Shortest decimals

The decimal with the fewest digits among the numbers that round to a given double, and of those with
as few digits the one closest to it. A draw goes to the larger.
-/

namespace Reckoner

/-- The number `digits * 10 ^ exponent`. -/
structure Decimal where
  digits : Nat
  exponent : Int
deriving DecidableEq, Repr

namespace Decimal

/-- Compares `a * 10 ^ i` with `b * 2 ^ j` in whole numbers. -/
def compareScaled (a : Nat) (i : Int) (b : Nat) (j : Int) : Ordering :=
  compare (a * Nat.pow 10 i.toNat * Nat.pow 2 (-j).toNat)
    (b * Nat.pow 2 j.toNat * Nat.pow 10 (-i).toNat)

/-- The decimal lies among the numbers that round to `x`: up to halfway to either neighbour, ends
included exactly when the significand is even. -/
def Dyadic.readsBack (x : Dyadic) (d : Decimal) : Bool :=
  let low := if x.narrowBelow then 4 * x.significand - 1 else 4 * x.significand - 2
  let high := 4 * x.significand + 2
  let below := compareScaled d.digits d.exponent low (x.exponent - 2)
  let above := compareScaled d.digits d.exponent high (x.exponent - 2)
  let ends := x.significand % 2 = 0
  (below = .gt || (ends && below = .eq)) && (above = .lt || (ends && above = .eq))

/-- How many decimal digits `n` has; zero has one. -/
def digitCount (n : Nat) : Nat := (Nat.toDigits 10 n).length

/-- The least `k` with `x < 10 ^ k`, for `x` above zero. -/
def Dyadic.scale (x : Dyadic) : Int :=
  let num := x.numerator
  let den := x.denominator
  if den ≤ num then digitCount (num / den)
  else
    let zeros := digitCount (den / num) - 1
    if num * Nat.pow 10 zeros < den then -zeros else 1 - zeros

/-- The neighbours of `x` on the grid `10 ^ exponent` that read back, the closer one first choice. -/
def Dyadic.onGrid (x : Dyadic) (exponent : Int) : Option Decimal :=
  let num := x.numerator * Nat.pow 10 (-exponent).toNat
  let den := x.denominator * Nat.pow 10 exponent.toNat
  let lower := num / den
  let below : Decimal := ⟨lower, exponent⟩
  let above : Decimal := ⟨lower + 1, exponent⟩
  match x.readsBack below, x.readsBack above with
  | true, true => if 2 * num < (2 * lower + 1) * den then some below else some above
  | true, false => some below
  | false, true => some above
  | false, false => none

/-- The value itself, with every digit. -/
def Dyadic.exact (x : Dyadic) : Decimal :=
  if 0 ≤ x.exponent then ⟨x.numerator, 0⟩
  else ⟨x.significand * Nat.pow 5 (-x.exponent).toNat, x.exponent⟩

/-- The same number without zeros at the end of its digits. -/
def strip (d : Decimal) : Decimal :=
  if h : d.digits ≠ 0 ∧ d.digits % 10 = 0 then strip ⟨d.digits / 10, d.exponent + 1⟩ else d
termination_by d.digits
decreasing_by omega

/-- The coarsest of the grids of one to seventeen digits that holds a number which reads back. -/
def Dyadic.shortest (x : Dyadic) : Decimal :=
  if x.significand = 0 then ⟨0, 0⟩
  else
    let scale := x.scale
    let found := (List.range 17).findSome? fun n => x.onGrid (scale - (n + 1 : Nat))
    strip (found.getD x.exact)

end Decimal

end Reckoner
