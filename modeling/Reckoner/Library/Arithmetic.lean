import Reckoner.Expr.Eval
import Reckoner.Scalar.CubeRoot
import Reckoner.Scalar.Double

/-!
# Arithmetic functions

Outside their domain these follow IEEE 754: the square root of a negative number is undefined and the
logarithm of zero infinite. Only the factorial refuses its argument.
-/

namespace Reckoner.Library

/-- The rule of a function of one number. -/
def unaryRule (f : Float → Float) (args : List Float) : Answer Float Float := do
  let x ← argument args 0
  return f x

/-- A row for a function of one number. -/
def unaryFunction (name description usage category : String) (style : Style) (f : Float → Float) :
    Function Float :=
  ⟨name, description, usage, category, .exact 1, style, unaryRule f⟩

/-- Repeated squaring: `acc * base ^ n`. -/
def powerLoop (base acc : Float) (n : Nat) : Float :=
  let acc := if n % 2 = 1 then acc * base else acc
  if n / 2 = 0 then acc else powerLoop (base * base) acc (n / 2)
termination_by n
decreasing_by omega

/-- A whole power by repeated squaring; negative exponents through the reciprocal. -/
def wholePower (base : Float) (n : Int) : Float :=
  let power := powerLoop base 1.0 n.natAbs
  if n < 0 then 1.0 / power else power

def arithmeticCategory : String := "math"

def sqrt : Function Float :=
  unaryFunction "sqrt" "Square root" "sqrt(x)" arithmeticCategory .radical Float.sqrt

def cbrt : Function Float :=
  unaryFunction "cbrt" "Cube root" "cbrt(x)" arithmeticCategory .cubeRoot cubeRoot

def abs : Function Float :=
  unaryFunction "abs" "Absolute value" "abs(x)" arithmeticCategory .absolute Float.abs

def exp : Function Float :=
  unaryFunction "exp" "e raised to the power x" "exp(x)" arithmeticCategory .exponential Float.exp

def ln : Function Float :=
  unaryFunction "ln" "Natural logarithm" "ln(x)" arithmeticCategory (.command "\\ln") Float.log

/-- Base ten unless a base is given. -/
def log : Function Float where
  name := "log"
  description := "Logarithm, base 10 unless a base is given"
  usage := "log(x, [base])"
  category := arithmeticCategory
  arity := .range 1 2
  style := .logarithm
  rule
    | [x] => .ok x.log10
    | [x, base] => .ok (x.log / base.log)
    | args => (Cause.argumentCount "log" "1 to 2" args.length none).throw

def pow : Function Float where
  name := "pow"
  description := "base raised to exponent"
  usage := "pow(base, exponent)"
  category := arithmeticCategory
  arity := .exact 2
  style := .operator
  rule args := do
    let base ← argument args 0
    let exponent ← argument args 1
    return base.pow exponent

/-- Halves away from zero, optionally at a decimal place. -/
def round : Function Float where
  name := "round"
  description := "Round half away from zero"
  usage := "round(x, [digits])"
  category := arithmeticCategory
  arity := .range 1 2
  style := .operator
  rule
    | [x] => .ok x.round
    | [x, digits] =>
      let scale := wholePower 10.0 digits.toInt32.toInt
      .ok ((x * scale).round / scale)
    | args => (Cause.argumentCount "round" "1 to 2" args.length none).throw

def floor : Function Float :=
  unaryFunction "floor" "Largest integer not greater than x" "floor(x)" arithmeticCategory .floor
    Float.floor

def ceil : Function Float :=
  unaryFunction "ceil" "Smallest integer not less than x" "ceil(x)" arithmeticCategory .ceil Float.ceil

def fact : Function Float where
  name := "fact"
  description := "Factorial of a non-negative integer"
  usage := "fact(n)"
  category := arithmeticCategory
  arity := .exact 1
  style := .factorial
  rule args := do
    let n ← argument args 0
    factorial n

def arithmetic : List (Function Float) :=
  [sqrt, cbrt, abs, exp, ln, log, pow, round, floor, ceil, fact]

end Reckoner.Library
