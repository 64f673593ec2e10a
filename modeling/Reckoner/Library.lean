import Reckoner.Library.Aggregate
import Reckoner.Library.Arithmetic
import Reckoner.Library.Constants
import Reckoner.Library.Finance
import Reckoner.Library.Trigonometry

/-!
# The function library

The functions and constants that come with the calculator.
-/

namespace Reckoner.Library

/-- Adds the mathematical functions and constants. -/
def addStandard (r : Registry Float) : Registry Float :=
  (r.withFunctions (arithmetic ++ trigonometry ++ aggregate)).withConstants constants

/-- Adds the financial functions. -/
def addFinance (r : Registry Float) : Registry Float := r.withFunctions finance

def standard : Registry Float := addStandard .empty

/-- Everything the library has. -/
def full : Registry Float := addFinance standard

end Reckoner.Library
