import Reckoner.Proofs.Exact
import Reckoner.Proofs.Meaning

/-!
# Regrouping sums and products

Trees that differ only in offsets and in how a sum with a sum or difference on its right, or a product
with a product on its right, is grouped. In exact arithmetic they have the same value in every
environment, whatever numbers their literals are read as.
-/

namespace Reckoner.Expr

section

variable {α β : Type}

mutual

/-- The same tree over other literals. -/
def map (f : α → β) : Expr α → Expr β
  | literal value => literal (f value)
  | variableRef name offset => variableRef name offset
  | unary op operand => unary op (map f operand)
  | binary op left right => binary op (map f left) (map f right)
  | call name args offset => call name (mapEach f args) offset

def mapEach (f : α → β) : List (Expr α) → List (Expr β)
  | [] => []
  | e :: rest => map f e :: mapEach f rest

end

/-- Literals, names of which `named` holds and operators, but no calls. -/
def IsArithmetic (named : String → Prop) : Expr α → Prop
  | literal _ => True
  | variableRef name _ => named name
  | unary _ operand => operand.IsArithmetic named
  | binary _ left right => left.IsArithmetic named ∧ right.IsArithmetic named
  | call _ _ _ => False

/-- Equal up to offsets and to regrouping `a + (b + c)`, `a + (b - c)` and `a * (b * c)` to the left. -/
inductive Regroups : Expr α → Expr α → Prop where
  | refl (e : Expr α) : Regroups e e
  | symm {e e' : Expr α} (h : Regroups e e') : Regroups e' e
  | trans {e e' e'' : Expr α} (h : Regroups e e') (h' : Regroups e' e'') : Regroups e e''
  | name (text : String) (offset offset' : Nat) :
      Regroups (variableRef text offset) (variableRef text offset')
  | neg {e e' : Expr α} (h : Regroups e e') : Regroups (unary .neg e) (unary .neg e')
  | factorial (offset offset' : Nat) {e e' : Expr α} (h : Regroups e e') :
      Regroups (unary (.factorial offset) e) (unary (.factorial offset') e')
  | binary (op : BinaryOperator) {l l' r r' : Expr α} (hl : Regroups l l') (hr : Regroups r r') :
      Regroups (binary op l r) (binary op l' r')
  | addAdd (a b c : Expr α) :
      Regroups (binary .add a (binary .add b c)) (binary .add (binary .add a b) c)
  | addSub (a b c : Expr α) :
      Regroups (binary .add a (binary .sub b c)) (binary .sub (binary .add a b) c)
  | mulMul (a b c : Expr α) :
      Regroups (binary .mul a (binary .mul b c)) (binary .mul (binary .mul a b) c)

end

theorem Regroups.map {α β : Type} (f : α → β) {e e' : Expr α} (h : Regroups e e') :
    Regroups (e.map f) (e'.map f) := by
  induction h with
  | refl e => exact .refl _
  | symm h ih => exact ih.symm
  | trans h h' ih ih' => exact ih.trans ih'
  | name text offset offset' => exact .name text offset offset'
  | neg h ih => exact ih.neg
  | factorial offset offset' h ih => exact ih.factorial offset offset'
  | binary op hl hr ihl ihr => exact .binary op ihl ihr
  | addAdd a b c => exact .addAdd _ _ _
  | addSub a b c => exact .addSub _ _ _
  | mulMul a b c => exact .mulMul _ _ _

/-! ## Values -/

section

variable {α : Type} [Scalar α]

/-- The value of an expression, if it has one. -/
def value? (registry : Registry α) (env : Environment α) (e : Expr α) : Option α :=
  (e.meaning registry env).toOption

variable (registry : Registry α) (env : Environment α)

theorem value?_variableRef (text : String) (offset : Nat) :
    value? registry env (variableRef text offset) = env text := by
  rw [value?, meaning]
  cases env text <;> rfl

theorem value?_neg (e : Expr α) :
    value? registry env (unary .neg e) = (value? registry env e).map (- ·) := by
  rw [value?, value?, meaning]
  cases e.meaning registry env <;> rfl

theorem value?_factorial (offset : Nat) (e : Expr α) :
    value? registry env (unary (.factorial offset) e) =
      (value? registry env e).bind fun x => (Reckoner.factorial x).toOption := by
  rw [value?, value?, meaning]
  cases e.meaning registry env with
  | error failure => rfl
  | ok x =>
    show ((Reckoner.factorial x).mapError _).toOption = (Reckoner.factorial x).toOption
    cases Reckoner.factorial x <;> rfl

theorem value?_binary (op : BinaryOperator) (l r : Expr α) :
    value? registry env (binary op l r) =
      (value? registry env l).bind fun x => (value? registry env r).map (op.apply x) := by
  rw [value?, value?, value?, meaning]
  cases l.meaning registry env with
  | error failure => rfl
  | ok x => cases r.meaning registry env <;> rfl

/-- The outer operation joins `a` with the result of the inner one, or their results the other way
round, to the same effect. -/
theorem value?_regroup {outer inner : BinaryOperator}
    (h : ∀ x y z : α, outer.apply x (inner.apply y z) = inner.apply (outer.apply x y) z)
    (a b c : Expr α) :
    value? registry env (binary outer a (binary inner b c)) =
      value? registry env (binary inner (binary outer a b) c) := by
  rw [value?_binary, value?_binary, value?_binary, value?_binary]
  cases value? registry env a with
  | none => rfl
  | some x =>
    cases value? registry env b with
    | none => rfl
    | some y =>
      cases value? registry env c with
      | none => rfl
      | some z => exact congrArg some (h x y z)

end

/-- Regrouping keeps the value in exact arithmetic. -/
theorem Regroups.value?_eq {K : Type} [Elementary K] [Field K] [LinearOrder K] [FloorRing K]
    (registry : Registry K) (env : Environment K) {e e' : Expr K} (h : Regroups e e') :
    value? registry env e = value? registry env e' := by
  induction h with
  | refl e => rfl
  | symm h ih => exact ih.symm
  | trans h h' ih ih' => exact ih.trans ih'
  | name text offset offset' => rw [value?_variableRef, value?_variableRef]
  | neg h ih => rw [value?_neg, value?_neg, ih]
  | factorial offset offset' h ih => rw [value?_factorial, value?_factorial, ih]
  | binary op hl hr ihl ihr => rw [value?_binary, value?_binary, ihl, ihr]
  | addAdd a b c =>
    refine value?_regroup registry env (fun x y z => ?_) a b c
    exact (add_assoc x y z).symm
  | addSub a b c =>
    refine value?_regroup registry env (fun x y z => ?_) a b c
    exact (add_sub_assoc x y z).symm
  | mulMul a b c =>
    refine value?_regroup registry env (fun x y z => ?_) a b c
    exact (mul_assoc x y z).symm

end Reckoner.Expr
