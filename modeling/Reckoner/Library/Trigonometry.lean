import Reckoner.Library.Arithmetic

/-!
# Trigonometric functions

Angles are in radians.
-/

namespace Reckoner.Library

def trigonometryCategory : String := "trig"

def sin : Function Float :=
  unaryFunction "sin" "Sine function" "sin(x)" trigonometryCategory (.command "\\sin") Float.sin

def cos : Function Float :=
  unaryFunction "cos" "Cosine function" "cos(x)" trigonometryCategory (.command "\\cos") Float.cos

def tan : Function Float :=
  unaryFunction "tan" "Tangent function" "tan(x)" trigonometryCategory (.command "\\tan") Float.tan

def asin : Function Float :=
  unaryFunction "asin" "Inverse sine" "asin(x)" trigonometryCategory (.command "\\arcsin") Float.asin

def acos : Function Float :=
  unaryFunction "acos" "Inverse cosine" "acos(x)" trigonometryCategory (.command "\\arccos")
    Float.acos

def atan : Function Float :=
  unaryFunction "atan" "Inverse tangent" "atan(x)" trigonometryCategory (.command "\\arctan")
    Float.atan

def trigonometry : List (Function Float) := [sin, cos, tan, asin, acos, atan]

end Reckoner.Library
