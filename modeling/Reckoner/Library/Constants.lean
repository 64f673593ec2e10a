import Reckoner.Function

/-!
# Mathematical constants
-/

namespace Reckoner.Library

private def transcendental (name : String) (value : Float) (markup source : String) :
    Constant Float :=
  ⟨name, value, some markup, source, "transcendental"⟩

private def algebraic (name : String) (value : Float) (markup source : String) : Constant Float :=
  ⟨name, value, some markup, source, "algebraic"⟩

def pi : Constant Float :=
  transcendental "pi" 3.14159265358979323846264338327950288 "\\pi" "https://oeis.org/A000796"

def e : Constant Float :=
  transcendental "e" 2.71828182845904523536028747135266250 "e" "https://oeis.org/A001113"

def tau : Constant Float :=
  transcendental "tau" 6.28318530717958647692528676655900577 "\\tau" "https://oeis.org/A019692"

def phi : Constant Float :=
  algebraic "phi" 1.618033988749895 "\\varphi" "https://oeis.org/A001622"

def sqrt2 : Constant Float :=
  algebraic "sqrt2" 1.41421356237309504880168872420969808 "\\sqrt\x7b2\x7d"
    "https://oeis.org/A002193"

def sqrt3 : Constant Float :=
  algebraic "sqrt3" 1.7320508075688772 "\\sqrt\x7b3\x7d" "https://oeis.org/A002194"

def ln2 : Constant Float :=
  transcendental "ln2" 0.693147180559945309417232121458176568 "\\ln 2" "https://oeis.org/A002162"

def ln10 : Constant Float :=
  transcendental "ln10" 2.30258509299404568401799145468436421 "\\ln 10" "https://oeis.org/A002392"

/-- The name that a symbol keyboard types. -/
def piSymbol : Constant Float := { pi with name := "π" }

def phiSymbol : Constant Float := { phi with name := "φ" }

def constants : List (Constant Float) :=
  [pi, e, tau, phi, sqrt2, sqrt3, ln2, ln10, piSymbol, phiSymbol]

end Reckoner.Library
