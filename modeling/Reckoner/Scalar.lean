/-!
# Scalars

The operations that amounts, rates, times and values of expressions are built from. Everything that
computes is written over `Scalar`, so the same definition runs on doubles and can be read over an
exact field. No laws are assumed here: doubles satisfy few of them.
-/

namespace Reckoner

/-- A type of numbers with arithmetic, comparison, powers and rounding. -/
class Scalar (α : Type) extends Zero α, One α, Add α, Sub α, Mul α, Div α, Neg α, NatCast α,
    OfScientific α, LT α, LE α, BEq α where
  decideLt (a b : α) : Decidable (a < b)
  decideLe (a b : α) : Decidable (a ≤ b)
  /-- `pow a b` is `a` raised to the power `b`. -/
  pow (a b : α) : α
  /-- The natural logarithm. -/
  ln (a : α) : α
  abs (a : α) : α
  /-- The largest whole number not above `a`. -/
  floor (a : α) : α
  /-- The smallest whole number not below `a`. -/
  ceil (a : α) : α
  /-- The nearest whole number, halves away from zero. -/
  round (a : α) : α
  /-- Neither infinite nor undefined. -/
  isFinite (a : α) : Bool
  /-- The sign carried by `a`; a negative zero counts as negative. -/
  isNegative (a : α) : Bool
  /-- The whole part of `a`, clamped to the counts that fit 64 bits. -/
  toNat (a : α) : Nat

namespace Scalar

variable {α : Type} [Scalar α]

instance (a b : α) : Decidable (a < b) := decideLt a b

instance (a b : α) : Decidable (a ≤ b) := decideLe a b

/-- The whole part, toward zero. -/
def truncate (a : α) : α := if a < 0 then ceil a else floor a

/-- What truncation drops. -/
def fraction (a : α) : α := a - truncate a

/-- The smaller operand. An undefined left operand gives way, and `a` wins a draw. -/
def lesser (a b : α) : α := if a != a then b else if b < a then b else a

/-- The larger operand. An undefined left operand gives way, and `a` wins a draw. -/
def greater (a b : α) : α := if a != a then b else if a < b then b else a

/-- `a` itself when it is finite. -/
def finite? (a : α) : Option α := if isFinite a then some a else none

/-- Both carry the same sign. -/
def sameSign (a b : α) : Bool := isNegative a == isNegative b

/-- The gap between one and the next double, `2 ^ -52`. -/
def spacing : α := 1 / ((4503599627370496 : Nat) : α)

end Scalar

end Reckoner
