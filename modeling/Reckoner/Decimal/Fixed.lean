import Reckoner.Decimal.Layout

/-!
# A fixed number of places

The exact value of a double rounded to a number of decimal places, ties to even.
-/

namespace Reckoner.Decimal

/-- The whole number nearest `num / den`; of two equally near the even one. -/
def roundDiv (num den : Nat) : Nat :=
  let q := num / den
  let r := num % den
  if 2 * r < den then q
  else if den < 2 * r then q + 1
  else if q % 2 = 0 then q else q + 1

/-- The whole number `n` counted in units of the last of `places` decimal places. -/
def placesText (places n : Nat) : List Char :=
  let ds := digitText n
  let padded := List.replicate (places + 1 - ds.length) '0' ++ ds
  if places = 0 then padded
  else padded.take (padded.length - places) ++ '.' :: padded.drop (padded.length - places)

/-- A double with exactly `places` decimal places; the special values keep their names. -/
def fixedChars (places : Nat) (x : Float) : List Char :=
  if x.isFinite then
    let v := Dyadic.ofFloat x
    let body := placesText places (roundDiv (v.numerator * Nat.pow 10 places) v.denominator)
    if signBit x then '-' :: body else body
  else Layout.plain.chars x

def fixedText (places : Nat) (x : Float) : String := String.ofList (fixedChars places x)

end Reckoner.Decimal
