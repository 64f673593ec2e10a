import Reckoner.Text.Blank
import Reckoner.Text.Lowercase
import Reckoner.Text.Search

/-!
# The formula catalog

Functions, constants and common formulas, ranked against what has been typed so far.
-/

namespace Reckoner

/-- An entry of the catalog, offered to complete an input. -/
structure Suggestion where
  title : String
  subtitle : String
  category : String
  /-- The text put into the input when the entry is picked. -/
  insertion : String
deriving DecidableEq, Repr

namespace Catalog

def entries : List Suggestion :=
  [⟨"sqrt", "Square root", "Math", "sqrt()"⟩,
   ⟨"cbrt", "Cube root", "Math", "cbrt()"⟩,
   ⟨"abs", "Absolute value", "Math", "abs()"⟩,
   ⟨"exp", "e raised to a power", "Math", "exp()"⟩,
   ⟨"ln", "Natural logarithm", "Math", "ln()"⟩,
   ⟨"log", "Logarithm, base 10 or given base", "Math", "log()"⟩,
   ⟨"pow", "Power", "Math", "pow(, )"⟩,
   ⟨"round", "Round to digits", "Math", "round(, 2)"⟩,
   ⟨"floor", "Round down", "Math", "floor()"⟩,
   ⟨"ceil", "Round up", "Math", "ceil()"⟩,
   ⟨"fact", "Factorial", "Math", "fact()"⟩,
   ⟨"sin", "Sine", "Trigonometry", "sin()"⟩,
   ⟨"cos", "Cosine", "Trigonometry", "cos()"⟩,
   ⟨"tan", "Tangent", "Trigonometry", "tan()"⟩,
   ⟨"asin", "Inverse sine", "Trigonometry", "asin()"⟩,
   ⟨"acos", "Inverse cosine", "Trigonometry", "acos()"⟩,
   ⟨"atan", "Inverse tangent", "Trigonometry", "atan()"⟩,
   ⟨"sum", "Sum of values", "Aggregate", "sum()"⟩,
   ⟨"product", "Product of values", "Aggregate", "product()"⟩,
   ⟨"min", "Smallest value", "Aggregate", "min()"⟩,
   ⟨"max", "Largest value", "Aggregate", "max()"⟩,
   ⟨"avg", "Mean of values", "Aggregate", "avg()"⟩,
   ⟨"integral", "Definite integral", "Calculus", "integral(, x, 0, 1)"⟩,
   ⟨"fv", "Future value", "Finance", "fv(rate, nper, pmt, pv)"⟩,
   ⟨"pv", "Present value", "Finance", "pv(rate, nper, pmt, fv)"⟩,
   ⟨"pmt", "Loan payment", "Finance", "pmt(rate, nper, pv)"⟩,
   ⟨"nper", "Number of periods", "Finance", "nper(rate, pmt, pv, fv)"⟩,
   ⟨"rate", "Interest rate per period", "Finance", "rate(nper, pmt, pv, fv)"⟩,
   ⟨"ipmt", "Interest portion of a payment", "Finance", "ipmt(rate, per, nper, pv)"⟩,
   ⟨"ppmt", "Principal portion of a payment", "Finance", "ppmt(rate, per, nper, pv)"⟩,
   ⟨"effect", "Effective annual rate", "Finance", "effect(rate, 12)"⟩,
   ⟨"nominal", "Nominal annual rate", "Finance", "nominal(rate, 12)"⟩,
   ⟨"pi", "Ratio of circumference to diameter", "Constant", "pi"⟩,
   ⟨"e", "Euler's number", "Constant", "e"⟩,
   ⟨"tau", "Two pi", "Constant", "tau"⟩,
   ⟨"phi", "Golden ratio", "Constant", "phi"⟩,
   ⟨"sqrt2", "Square root of 2", "Constant", "sqrt2"⟩,
   ⟨"sqrt3", "Square root of 3", "Constant", "sqrt3"⟩,
   ⟨"ln2", "Natural log of 2", "Constant", "ln2"⟩,
   ⟨"ln10", "Natural log of 10", "Constant", "ln10"⟩,
   ⟨"Compound interest", "Balance after compounding", "Formula",
    "principal * (1 + rate / n)^(n * years)"⟩,
   ⟨"Continuous compounding", "Balance with continuous growth", "Formula",
    "principal * exp(rate * years)"⟩,
   ⟨"Simple interest", "Interest without compounding", "Formula", "principal * rate * years"⟩,
   ⟨"Monthly mortgage payment", "Level payment on a home loan", "Formula",
    "-pmt(rate / 12, years * 12, principal)"⟩,
   ⟨"Rule of 72", "Years to double", "Formula", "72 / (rate * 100)"⟩,
   ⟨"Percentage change", "Relative change", "Formula", "(new - old) / old * 100"⟩,
   ⟨"Pythagorean theorem", "Hypotenuse length", "Formula", "sqrt(a^2 + b^2)"⟩]

/-- How well an entry matches a query in lower case: zero for the start of the title, one for the
title, two for the subtitle or the insertion. -/
def tier? (query : String) (entry : Suggestion) : Option Nat :=
  let title := Text.lower entry.title
  if Text.startsWith title query then some 0
  else if Text.contains title query then some 1
  else if Text.contains (Text.lower entry.subtitle) query ||
      Text.contains (Text.lower entry.insertion) query then some 2
  else none

/-- The entries that match, each with its tier, in catalog order. -/
def matching (query : String) : List (Nat × Suggestion) :=
  entries.filterMap fun entry => (tier? query entry).map fun tier => (tier, entry)

/-- One match is no worse than another. -/
def noWorse (a b : Nat × Suggestion) : Bool := a.1 ≤ b.1

/-- The entries that match, better tiers first. The sort is stable, so catalog order survives within a
tier. -/
def byTier (query : String) : List (Nat × Suggestion) := (matching query).mergeSort noWorse

/-- What is searched for: the input without outer blanks, in lower case. -/
def query (input : String) : String := Text.lower (Text.trim input)

/-- The best matches, tier by tier and in catalog order within a tier. A blank input matches
nothing. -/
def suggest (input : String) (limit : Nat) : List Suggestion :=
  let query := query input
  if query.isEmpty then []
  else ((byTier query).take limit).map Prod.snd

end Catalog

end Reckoner
