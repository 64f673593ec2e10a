import Reckoner.Decimal.Shortest

/-!
# Decimal text of a double

How shortest digits are laid out as text: where the point stands, when an exponent is written, and
what the special values are called. Each output format is one `Layout`.
-/

namespace Reckoner.Decimal

/-- The decisions of one output format for doubles. -/
structure Layout where
  /-- Exponents of the leading digit for which the number is written without an exponent. -/
  positional : Int → Bool
  /-- Whole numbers end in `.0`. -/
  pointZero : Bool

/-- Messages and markup: every digit in place, and whole numbers without a point. -/
def Layout.plain : Layout where
  positional _ := true
  pointZero := false

/-- Data: an exponent below `1e-5` and from `1e16` on, and whole numbers end in `.0`. -/
def Layout.data : Layout where
  positional e := -5 ≤ e && e < 16
  pointZero := true

def digitText (n : Nat) : List Char := Nat.toDigits 10 n

/-- The digits with the point after, inside or before them. -/
def positionalText (pointZero : Bool) (d : Decimal) : List Char :=
  let ds := digitText d.digits
  if 0 ≤ d.exponent then
    ds ++ List.replicate d.exponent.toNat '0' ++ if pointZero then ['.', '0'] else []
  else
    let places := (-d.exponent).toNat
    if places < ds.length then
      ds.take (ds.length - places) ++ '.' :: ds.drop (ds.length - places)
    else '0' :: '.' :: List.replicate (places - ds.length) '0' ++ ds

/-- One digit before the point, then the exponent, without a plus sign or leading zeros. -/
def exponentText (leading : Int) (d : Decimal) : List Char :=
  let mantissa := match digitText d.digits with
    | [] => []
    | [c] => [c]
    | c :: rest => c :: '.' :: rest
  let sign := if leading < 0 then ['-'] else []
  mantissa ++ 'e' :: sign ++ digitText leading.natAbs

/-- The text of a magnitude. -/
def Layout.magnitude (l : Layout) (d : Decimal) : List Char :=
  let leading := (digitText d.digits).length + d.exponent - 1
  if l.positional leading then positionalText l.pointZero d else exponentText leading d

/-- The text of a double, with its sign also for zero, and names for the special values. -/
def Layout.chars (l : Layout) (x : Float) : List Char :=
  if x.isNaN then ['N', 'a', 'N']
  else
    let body := if x.isInf then ['i', 'n', 'f'] else l.magnitude (Dyadic.ofFloat x).shortest
    if signBit x then '-' :: body else body

def Layout.text (l : Layout) (x : Float) : String := String.ofList (l.chars x)

end Reckoner.Decimal
