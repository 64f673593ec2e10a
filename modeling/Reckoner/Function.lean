import Reckoner.Failure
import Reckoner.Scalar

/-!
# Functions and constants

A function is a row of a table: a name, the argument counts it accepts, the rule that computes it and
how a call is typeset. A constant is a named value.
-/

namespace Reckoner

/-- The argument counts that a function accepts. -/
inductive Arity where
  | exact (n : Nat)
  /-- Both bounds included. -/
  | range (least most : Nat)
  | atLeast (n : Nat)
deriving DecidableEq, Repr

namespace Arity

def accepts : Arity → Nat → Bool
  | exact n, count => count == n
  | range least most, count => least ≤ count && count ≤ most
  | atLeast n, count => n ≤ count

/-- How messages name the counts. -/
def describe : Arity → String
  | exact n => toString n
  | range least most => toString least ++ " to " ++ toString most
  | atLeast n => "at least " ++ toString n

end Arity

/-- How a call is typeset. -/
inductive Style where
  /-- A markup command of its own. -/
  | command (text : String)
  /-- The name in upright letters. -/
  | operator
  | radical
  | cubeRoot
  | absolute
  | floor
  | ceil
  | exponential
  /-- With an optional base below. -/
  | logarithm
  | factorial
deriving DecidableEq, Repr

/-- A row of the function table. The rule is given arguments that are evaluated already. -/
structure Function (α : Type) where
  name : String
  description : String
  usage : String
  category : String
  arity : Arity
  style : Style
  rule : List α → Answer α α

namespace Function

variable {α : Type}

/-- Checks the number of arguments, then applies the rule. -/
def apply (f : Function α) (args : List α) : Answer α α :=
  if f.arity.accepts args.length then f.rule args
  else (Cause.argumentCount f.name f.arity.describe args.length (some f.usage)).throw

end Function

/-- The argument at an index, for rules that count on it. -/
def argument {α : Type} (args : List α) (index : Nat) : Answer α α :=
  match args[index]? with
  | some x => .ok x
  | none => (Cause.malformed (.missingArgument index)).throw

/-- A named value, with its typeset form, where it comes from and what it belongs to. -/
structure Constant (α : Type) where
  name : String
  value : α
  markup : Option String
  source : String
  category : String
deriving DecidableEq, Repr

end Reckoner
