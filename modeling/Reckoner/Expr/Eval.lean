import Reckoner.Expr
import Reckoner.Scope

/-!
# Evaluating expressions

Evaluation runs over a scope. Operands and arguments are evaluated from left to right and the first
failure ends it. Arithmetic never fails; names, calls and factorials may, and their failures carry
the offset at which they stand. The one special form is the definite integral, which binds its
variable in the scope while it samples its body.
-/

namespace Reckoner

/-- A computation over a scope, which remains also after a failure. -/
abbrev Evaluation (α β : Type) := ExceptT (Failure α) (StateM (Scope α)) β

namespace Evaluation

variable {α β : Type}

def ofAnswer (a : Answer α β) : Evaluation α β := fun scope => (a, scope)

/-- An answer whose failure stands at `offset` unless it knows its place. -/
def located (offset : Nat) (a : Answer α β) : Evaluation α β :=
  ofAnswer (a.mapError fun failure => failure.locate offset)

def modifyScope (f : Scope α → Scope α) : Evaluation α Unit := fun scope => (.ok (), f scope)

/-- Runs computations one after another. -/
def inOrder : List (Evaluation α β) → Evaluation α (List β)
  | [] => pure []
  | run :: rest => do
    let x ← run
    let xs ← inOrder rest
    return x :: xs

/-- Runs a computation under one more binding, which is dropped however it ends. -/
def binding (name : String) (value : α) (run : Evaluation α β) : Evaluation α β := fun scope =>
  let (answer, after) := run (scope.bind name value)
  (answer, after.unbind)

end Evaluation

section

variable {α : Type} [Scalar α]

open Scalar

/-- The factorial of a whole number from zero to `maxFactorial`. -/
def factorial (n : α) : Answer α α :=
  if !isFinite n || n < 0 || fraction n != 0 then (Cause.outOfDomain (.notFactorial n)).throw
  else if ((maxFactorial : Nat) : α) < n then (Cause.outOfDomain (.factorialTooLarge n)).throw
  else .ok ((List.range' 2 (toNat n - 1)).foldl (fun product k => product * ((k : Nat) : α)) 1)

namespace BinaryOperator

def apply : BinaryOperator → α → α → α
  | add, a, b => a + b
  | sub, a, b => a - b
  | mul, a, b => a * b
  | div, a, b => a / b
  | pow, a, b => Scalar.pow a b

end BinaryOperator

namespace Simpson

/-- The weight of sample `i`: one at the ends, between them four and two in turn. -/
def weight (i : Nat) : α :=
  if i = 0 ∨ i = integrationIntervals then 1
  else if i % 2 = 1 then ((4 : Nat) : α)
  else ((2 : Nat) : α)

/-- The weighted sum of the samples of `body` at `lo + h * i`. -/
def weightedSum (name : String) (lo h : α) (body : Evaluation α α) :
    List Nat → α → Evaluation α α
  | [], sum => pure sum
  | i :: rest, sum => do
    Evaluation.modifyScope fun scope => scope.rebind name (lo + h * (i : α))
    let sample ← body
    weightedSum name lo h body rest (sum + weight i * sample)

/-- The integral of `body` from `lo` to `hi` by the composite rule, in a scope that binds `name`. -/
def integrate (name : String) (lo hi : α) (body : Evaluation α α) : Evaluation α α := do
  let h := (hi - lo) / (integrationIntervals : α)
  let sum ← weightedSum name lo h body (List.range (integrationIntervals + 1)) 0
  return sum * h / ((3 : Nat) : α)

end Simpson

namespace Expr

/-- The integral of the first argument over the variable that is the second, between the values of
the other two. `runs` evaluate the arguments. -/
def evalIntegral (args : List (Expr α)) (runs : List (Evaluation α α)) (offset : Nat) :
    Evaluation α α :=
  match args, runs with
  | [_, variableRef name _, _, _], [body, _, lower, upper] => do
    let lo ← lower
    let hi ← upper
    Evaluation.binding name lo (Simpson.integrate name lo hi body)
  | [_, _, _, _], _ =>
    Evaluation.ofAnswer (.error ((Cause.malformed .integralVariable).at offset))
  | _, _ =>
    Evaluation.ofAnswer (.error ((Cause.argumentCount integralName "4" args.length
      (some "integral(expression, variable, lower, upper)")).at offset))

/-- A call. A registered function has its arguments evaluated and then their number checked; an
unregistered name fails before its arguments are looked at, unless it is the integral. -/
def evalCall (registry : Registry α) (name : String) (args : List (Expr α))
    (runs : List (Evaluation α α)) (offset : Nat) : Evaluation α α :=
  match registry.function? name with
  | some f => do
    let values ← Evaluation.inOrder runs
    Evaluation.located offset (f.apply values)
  | none =>
    if Text.sameIgnoringCase name integralName then evalIntegral args runs offset
    else Evaluation.ofAnswer (.error ((registry.undefinedFunction name).at offset))

mutual

/-- The value of an expression in the scope. -/
def eval (registry : Registry α) : Expr α → Evaluation α α
  | literal value => pure value
  | variableRef name offset => fun scope =>
    Evaluation.located offset (scope.value name) scope
  | unary .neg operand => do
    let x ← eval registry operand
    return -x
  | unary (.factorial offset) operand => do
    let x ← eval registry operand
    Evaluation.located offset (Reckoner.factorial x)
  | binary op left right => do
    let x ← eval registry left
    let y ← eval registry right
    return op.apply x y
  | call name args offset => evalCall registry name args (evalEach registry args) offset

/-- The computations that evaluate each of a list of expressions. -/
def evalEach (registry : Registry α) : List (Expr α) → List (Evaluation α α)
  | [] => []
  | e :: rest => eval registry e :: evalEach registry rest

end

/-- The value of an expression over a store, with nothing bound. -/
def evalIn (registry : Registry α) (store : Store α) (e : Expr α) : Answer α α :=
  (eval registry e (Scope.ofStore store)).1

end Expr

end

end Reckoner
