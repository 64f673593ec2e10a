import Reckoner.Decimal.Fixed

/-!
# Numbers for display

Plain numeric text for a host that adds currency and locale itself. A number that is infinite or
undefined is shown as one fixed word.
-/

namespace Reckoner.Display

/-- Stands in for numbers that are infinite or undefined. -/
def errorSentinel : String := "Error"

/-- A text without its minus sign if nothing but zeros and a point follow it. -/
def dropZeroSign : List Char → List Char
  | '-' :: rest => if rest.all fun c => c == '0' || c == '.' then rest else '-' :: rest
  | cs => cs

/-- A fixed number of decimal places, and no negative zero. -/
def number (value : Float) (decimals : Nat) : String :=
  if value.isFinite then String.ofList (dropZeroSign (Decimal.fixedChars decimals value))
  else errorSentinel

/-- A fraction as a percentage. -/
def percent (fraction : Float) (decimals : Nat) : String :=
  if fraction.isFinite then number (fraction * 100.0) decimals ++ "%" else errorSentinel

end Reckoner.Display
