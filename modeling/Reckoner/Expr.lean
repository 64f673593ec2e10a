/-!
# Expressions

The tree of an expression over literals of type `α`. Names, calls and factorials keep the offset at
which they stand in the source, for error reports; nothing else depends on offsets.
-/

namespace Reckoner

inductive BinaryOperator where
  | add
  | sub
  | mul
  | div
  | pow
deriving DecidableEq, Repr

/-- The operator written with a symbol. -/
def BinaryOperator.ofSymbol? : Char → Option BinaryOperator
  | '+' => some add
  | '-' => some sub
  | '*' => some mul
  | '/' => some div
  | '^' => some pow
  | _ => none

inductive UnaryOperator where
  | neg
  /-- Written after its operand; the offset is that of the mark. -/
  | factorial (offset : Nat)
deriving DecidableEq, Repr

inductive Expr (α : Type) where
  | literal (value : α)
  | variableRef (name : String) (offset : Nat)
  | unary (op : UnaryOperator) (operand : Expr α)
  | binary (op : BinaryOperator) (left right : Expr α)
  | call (name : String) (args : List (Expr α)) (offset : Nat)

/-- The name of the special form, in any case of its letters. -/
def integralName : String := "integral"

namespace Expr

variable {α : Type}

/-- Reads as one item in any operand position, without parentheses around it. -/
def isAtomic : Expr α → Bool
  | literal _ | variableRef .. | call .. => true
  | unary .. | binary .. => false

/-- What holds of a call when it holds of all its arguments, and so on, holds of every tree. -/
@[elab_as_elim]
theorem induction {motive : Expr α → Prop} (literal : ∀ value, motive (literal value))
    (variableRef : ∀ name offset, motive (variableRef name offset))
    (unary : ∀ op operand, motive operand → motive (unary op operand))
    (binary : ∀ op left right, motive left → motive right → motive (binary op left right))
    (call : ∀ name args offset, (∀ e ∈ args, motive e) → motive (call name args offset)) :
    ∀ e, motive e
  | .literal value => literal value
  | .variableRef name offset => variableRef name offset
  | .unary op operand =>
    unary op operand (induction literal variableRef unary binary call operand)
  | .binary op left right =>
    binary op left right (induction literal variableRef unary binary call left)
      (induction literal variableRef unary binary call right)
  | .call name args offset =>
    call name args offset fun e _ => induction literal variableRef unary binary call e

end Expr

end Reckoner
