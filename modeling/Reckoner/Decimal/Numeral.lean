import Reckoner.Decimal.Shortest

/-!
# Numerals

Reading unsigned decimal text: digits with an optional point among or around them, and an optional
exponent.
-/

namespace Reckoner.Decimal

/-- The number spelled by decimal digits after a number read before them. -/
def ofDigits (start : Nat) (ds : List Char) : Nat :=
  ds.foldl (fun n c => 10 * n + (c.toNat - '0'.toNat)) start

/-- The value of an exponent part: a mark, an optional sign and at least one digit. -/
def exponentPart? : List Char → Option Int
  | [] => some 0
  | mark :: rest =>
    if mark = 'e' ∨ mark = 'E' then
      let (negative, ds) := match rest with
        | '-' :: ds => (true, ds)
        | '+' :: ds => (false, ds)
        | ds => (false, ds)
      if ds ≠ [] ∧ ds.all Char.isDigit then
        let n : Int := ofDigits 0 ds
        some (if negative then -n else n)
      else none
    else none

/-- The number that a numeral spells. At least one digit stands before the exponent. -/
def ofNumeral? (cs : List Char) : Option Decimal :=
  let whole := cs.takeWhile Char.isDigit
  let (places, rest) := match cs.dropWhile Char.isDigit with
    | '.' :: rest => (rest.takeWhile Char.isDigit, rest.dropWhile Char.isDigit)
    | rest => ([], rest)
  if whole = [] ∧ places = [] then none
  else
    (exponentPart? rest).map fun e =>
      ⟨ofDigits (ofDigits 0 whole) places, e - (places.length : Int)⟩

/-- The double nearest to a decimal, ties to even; infinity beyond the largest double. Exponents far
out of range are answered without computing the power. -/
def toFloat (d : Decimal) : Float :=
  let size : Int := digitCount d.digits + d.exponent
  if d.digits = 0 then 0.0
  else if 400 < size then 1.0 / 0.0
  else if size < -400 then 0.0
  else Float.ofScientific d.digits (d.exponent < 0) d.exponent.natAbs

end Reckoner.Decimal
