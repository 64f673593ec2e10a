import Reckoner.Library.Arithmetic

/-!
# Aggregate functions

Functions of one or more numbers. Smallest and largest pass over undefined numbers.
-/

namespace Reckoner.Library

open Scalar

def aggregateCategory : String := "aggregate"

/-- A row for a function of one or more numbers. -/
def aggregateFunction (name description usage : String) (style : Style)
    (f : List Float → Float) : Function Float :=
  ⟨name, description, usage, aggregateCategory, .atLeast 1, style, fun args => .ok (f args)⟩

/-- The sum from left to right. It starts from negative zero, the neutral number of addition. -/
def total (args : List Float) : Float := args.foldl (· + ·) (-0.0)

def infinity : Float := 1.0 / 0.0

def sum : Function Float := aggregateFunction "sum" "Sum of values" "sum(a, b, ...)" .operator total

def product : Function Float :=
  aggregateFunction "product" "Product of values" "product(a, b, ...)" .operator fun args =>
    args.foldl (· * ·) 1.0

def min : Function Float :=
  aggregateFunction "min" "Smallest value" "min(a, b, ...)" (.command "\\min") fun args =>
    args.foldl lesser infinity

def max : Function Float :=
  aggregateFunction "max" "Largest value" "max(a, b, ...)" (.command "\\max") fun args =>
    args.foldl greater (-infinity)

def avg : Function Float :=
  aggregateFunction "avg" "Arithmetic mean" "avg(a, b, ...)" .operator fun args =>
    total args / Float.ofNat args.length

def aggregate : List (Function Float) := [sum, product, min, max, avg]

end Reckoner.Library
