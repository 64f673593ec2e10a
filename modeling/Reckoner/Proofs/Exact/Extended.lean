import Reckoner.Proofs.Exact

/-!
# Exact scalars with division by zero

An ordered field gives a quotient to every pair of numbers, by zero as well. Here its numbers are
finite, and what divides by zero or takes the logarithm of no positive number is not. Whatever is
computed from a non-finite number is non-finite, and no comparison holds of it.
-/

namespace Reckoner

/-- Exact numbers, and one value for everything infinite or undefined. -/
inductive Extended (K : Type) where
  | finite (x : K)
  | nonFinite

namespace Extended

variable {K : Type}

/-- A result of a finite number. -/
def ofOne (f : K → Extended K) : Extended K → Extended K
  | finite x => f x
  | nonFinite => nonFinite

/-- A result of two finite numbers. -/
def ofTwo (f : K → K → Extended K) (x y : Extended K) : Extended K := ofOne (fun a => ofOne (f a) y) x

/-- Between finite numbers. -/
def Holds (r : K → K → Prop) : Extended K → Extended K → Prop
  | finite x, finite y => r x y
  | _, nonFinite => False
  | nonFinite, _ => False

instance Holds.decidable (r : K → K → Prop) [∀ x y, Decidable (r x y)] :
    ∀ x y, Decidable (Holds r x y)
  | finite x, finite y => inferInstanceAs (Decidable (r x y))
  | finite _, nonFinite => isFalse id
  | nonFinite, finite _ => isFalse id
  | nonFinite, nonFinite => isFalse id

variable [Elementary K] [Field K] [LinearOrder K] [FloorRing K]

instance scalar : Scalar (Extended K) where
  zero := finite 0
  one := finite 1
  add := ofTwo fun x y => finite (x + y)
  sub := ofTwo fun x y => finite (x - y)
  mul := ofTwo fun x y => finite (x * y)
  div := ofTwo fun x y => if y = 0 then nonFinite else finite (x / y)
  neg := ofOne fun x => finite (-x)
  natCast n := finite n
  ofScientific mantissa negative exponent :=
    finite (OfScientific.ofScientific mantissa negative exponent)
  lt := Holds (· < ·)
  le := Holds (· ≤ ·)
  beq x y := decide (Holds (· = ·) x y)
  decideLt := inferInstanceAs (∀ x y, Decidable (Holds (· < ·) x y))
  decideLe := inferInstanceAs (∀ x y, Decidable (Holds (· ≤ ·) x y))
  pow := ofTwo fun x y => finite (Scalar.pow x y)
  ln := ofOne fun x => if 0 < x then finite (Scalar.ln x) else nonFinite
  abs := ofOne fun x => finite (Scalar.abs x)
  floor := ofOne fun x => finite (Scalar.floor x)
  ceil := ofOne fun x => finite (Scalar.ceil x)
  round := ofOne fun x => finite (Scalar.round x)
  isFinite
    | finite _ => true
    | nonFinite => false
  isNegative x := decide (Holds (· < ·) x (finite 0))
  toNat
    | finite x => Scalar.toNat x
    | nonFinite => 0

theorem finite_one : (finite 1 : Extended K) = 1 := rfl

theorem finite_add (x y : K) : finite x + finite y = finite (x + y) := rfl

theorem finite_sub (x y : K) : finite x - finite y = finite (x - y) := rfl

theorem finite_mul (x y : K) : finite x * finite y = finite (x * y) := rfl

theorem finite_div {y : K} (hy : y ≠ 0) (x : K) : finite x / finite y = finite (x / y) := if_neg hy

theorem finite_div_zero (x : K) : finite x / finite 0 = (nonFinite : Extended K) := if_pos rfl

theorem ln_finite {x : K} (hx : 0 < x) : Scalar.ln (finite x) = finite (Scalar.ln x) := if_pos hx

@[simp] theorem finite_beq_zero (x : K) : (finite x == 0) = decide (x = 0) := rfl

@[simp] theorem finite_nonpos_iff {x : K} : finite x ≤ 0 ↔ x ≤ 0 := Iff.rfl

@[simp] theorem finite_pos_iff {x : K} : 0 < finite x ↔ 0 < x := Iff.rfl

@[simp] theorem finite_neg_iff {x : K} : finite x < 0 ↔ x < 0 := Iff.rfl

@[simp] theorem isFinite_finite (x : K) : Scalar.isFinite (finite x) = true := rfl

@[simp] theorem isFinite_nonFinite : Scalar.isFinite (nonFinite : Extended K) = false := rfl

end Extended

end Reckoner
