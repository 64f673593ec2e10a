/-!
# Limits

The bounds that the program enforces. Messages quote them.
-/

namespace Reckoner

/-- The deepest expression accepted: both the height of its tree and the nesting of parentheses,
calls and exponents. Whatever recurses over a tree is bounded by it. -/
def maxDepth : Nat := 128

/-- The largest `n` whose factorial is finite as a double. -/
def maxFactorial : Nat := 170

/-- The longest schedule, in payment periods. -/
def maxPeriods : Nat := 10000

/-- Intervals of the integration rule; an even number. -/
def integrationIntervals : Nat := 1000

/-- How many similar names a report offers. -/
def maxSimilar : Nat := 5

end Reckoner
