import Reckoner.Proofs.Meaning
import Reckoner.Scalar.Double

/-!
# Evaluation agrees with the meaning

A computation over a scope means a function of environments when it answers what the function says
of the environment of the scope, and leaves the scope as it found it. Everything that evaluation is
built from keeps this. The one place where the scope changes meanwhile is the integral: from sample
to sample its own binding is the innermost one, so only that binding is ever overwritten.
-/

namespace Reckoner

namespace Scope

variable {α : Type}

theorem value_eq (s : Scope α) (name : String) :
    s.value name =
      match s.environment name with
      | some x => .ok x
      | none => (Cause.undefinedVariable name).throw := by
  unfold value environment
  cases s.locals.lookup name with
  | some x => rfl
  | none =>
    unfold Store.value Store.value?
    cases s.store.find? name with
    | some v => rfl
    | none => cases s.store.builtins.lookup name <;> rfl

theorem environment_bind (s : Scope α) (name : String) (x : α) :
    (s.bind name x).environment = s.environment.extend name x := by
  funext other
  by_cases h : other = name
  · simp [environment, bind, Environment.extend, h]
  · have hbeq : (other == name) = false := beq_false_of_ne h
    simp [environment, bind, Environment.extend, List.lookup_cons, h, hbeq]

/-- The innermost binding is the first one that a new value can go to. -/
@[simp] theorem rebind_bind (s : Scope α) (name : String) (x y : α) :
    (s.bind name x).rebind name y = s.bind name y := by
  simp [rebind, bind, rebind?]

end Scope

namespace Evaluation

variable {α β γ : Type}

theorem bind_apply (run : Evaluation α β) (next : β → Evaluation α γ) (scope : Scope α) :
    (run >>= next) scope =
      match run scope with
      | (.ok x, after) => next x after
      | (.error failure, after) => (.error failure, after) := by
  show ExceptT.bindCont next _ _ = _
  rcases run scope with ⟨_ | _, _⟩ <;> rfl

/-- `run` answers what `f` says of the environment, and the scope is afterwards what it was. -/
def Means (run : Evaluation α β) (f : Environment α → Answer α β) : Prop :=
  ∀ scope, run scope = (f scope.environment, scope)

theorem means_pure (x : β) : Means (pure x : Evaluation α β) fun _ => .ok x := fun _ => rfl

theorem means_located (offset : Nat) (a : Answer α β) :
    Means (located offset a) fun _ => a.mapError fun failure => failure.locate offset := fun _ => rfl

theorem Means.bind {run : Evaluation α β} {f : Environment α → Answer α β}
    {next : β → Evaluation α γ} {g : β → Environment α → Answer α γ} (hrun : Means run f)
    (hnext : ∀ x, Means (next x) (g x)) :
    Means (run >>= next) fun env => f env >>= fun x => g x env := by
  intro scope
  rw [bind_apply, hrun scope]
  show _ = (f scope.environment >>= fun x => g x scope.environment, scope)
  cases f scope.environment with
  | error failure => rfl
  | ok x => exact hnext x scope

end Evaluation

section

variable {α : Type} [Scalar α]

namespace Simpson

open Evaluation

/-- Under a binding of its variable the sum samples the body in environments that extend the one
outside, and nothing but the value of that binding has changed when it ends. -/
theorem weightedSum_bind {body : Evaluation α α} {f : Environment α → Answer α α}
    (hbody : Means body f) (name : String) (lo h : α) (samples : List Nat) (sum : α)
    (scope : Scope α) (x : α) :
    ∃ y, weightedSum name lo h body samples sum (scope.bind name x) =
      (do
        let ys ← samples.mapM fun (i : Nat) => f (scope.environment.extend name (lo + h * (i : α)))
        return (List.zipWith (fun i y => weight i * y) samples ys).foldl (· + ·) sum,
      scope.bind name y) := by
  -- The value bound before a sample is overwritten by the sample, so it may be anything.
  induction samples generalizing sum x with
  | nil => exact ⟨x, rfl⟩
  | cons i rest ih =>
    have hsample := hbody (scope.bind name (lo + h * (i : α)))
    rw [Scope.environment_bind] at hsample
    simp only [weightedSum, bind_apply, modifyScope, Scope.rebind_bind, hsample]
    cases hfirst : f (scope.environment.extend name (lo + h * (i : α))) with
    | error failure =>
      refine ⟨lo + h * (i : α), ?_⟩
      simp only [List.mapM_cons, hfirst]
      rfl
    | ok sample =>
      obtain ⟨y, hrest⟩ := ih (sum + weight i * sample) (lo + h * (i : α))
      refine ⟨y, ?_⟩
      simp only [hrest, List.mapM_cons, hfirst]
      cases rest.mapM fun (i : Nat) => f (scope.environment.extend name (lo + h * (i : α))) <;> rfl

/-- An integral over a binding of its own means the quadrature of its body. -/
theorem means_integrate {body : Evaluation α α} {f : Environment α → Answer α α}
    (hbody : Means body f) (name : String) (lo hi : α) :
    Means (binding name lo (integrate name lo hi body))
      fun env => quadrature (fun t => f (env.extend name t)) lo hi := by
  intro scope
  obtain ⟨y, hsum⟩ := weightedSum_bind hbody name lo ((hi - lo) / (integrationIntervals : α))
    (List.range (integrationIntervals + 1)) 0 scope lo
  simp only [binding, integrate, bind_apply, hsum, quadrature, weightedTotal]
  cases (List.range (integrationIntervals + 1)).mapM fun (i : Nat) =>
    f (scope.environment.extend name (lo + (hi - lo) / (integrationIntervals : α) * (i : α))) <;> rfl

end Simpson

namespace Expr

open Evaluation

variable (registry : Registry α)

theorem means_variableRef (name : String) (offset : Nat) :
    Means (eval registry (variableRef name offset))
      (meaning registry (variableRef name offset)) := by
  intro scope
  simp only [eval, meaning, Scope.value_eq]
  cases scope.environment name <;> rfl

theorem means_inOrder {args : List (Expr α)}
    (hargs : ∀ e ∈ args, Means (eval registry e) (meaning registry e)) :
    Means (inOrder (evalEach registry args)) (meanings registry args) := by
  induction args with
  | nil => exact means_pure []
  | cons e rest ih =>
    refine (hargs e List.mem_cons_self).bind fun x => ?_
    exact (ih fun e' he' => hargs e' (List.mem_cons_of_mem e he')).bind fun xs => means_pure (x :: xs)

/-- The special form checks the shape of its arguments before it evaluates any of them. -/
theorem means_evalIntegral {name : String} (hname : isIntegral registry name) {args : List (Expr α)}
    (offset : Nat) (hargs : ∀ e ∈ args, Means (eval registry e) (meaning registry e)) :
    Means (evalIntegral args (evalEach registry args) offset)
      (meaning registry (call name args offset)) := by
  intro scope
  rw [meaning.eq_def]
  simp only [hname, if_true]
  split
  · rename_i body v _ lower upper
    have hlower := hargs lower (by simp)
    have hupper := hargs upper (by simp)
    have hbody := hargs body (by simp)
    exact (hlower.bind fun a => hupper.bind fun b => Simpson.means_integrate hbody v a b) scope
  · rename_i hvariable
    rw [evalIntegral.eq_2 _ _ _ _ _ _ fun v o _ _ _ _ _ => hvariable v o]
    rfl
  · rename_i hvariable hcount
    rw [evalIntegral.eq_3 _ _ _ hcount fun e v o e' e'' _ _ _ _ heq _ => hvariable e v o e' e'' heq]
    rfl

/-- A function evaluates its arguments and then counts them; an unknown name looks at none. -/
theorem means_evalCall {name : String} {args : List (Expr α)} (offset : Nat)
    (hargs : ∀ e ∈ args, Means (eval registry e) (meaning registry e)) :
    Means (evalCall registry name args (evalEach registry args) offset)
      (meaning registry (call name args offset)) := by
  cases hname : isIntegral registry name with
  | true =>
    have hparts := hname
    simp only [isIntegral, Registry.hasFunction, Bool.and_eq_true, Bool.not_eq_true',
      Option.isSome_eq_false_iff, Option.isNone_iff_eq_none] at hparts
    simp only [evalCall, hparts.1, hparts.2, if_true]
    exact means_evalIntegral registry hname offset hargs
  | false =>
    intro scope
    rw [meaning.eq_def]
    simp only [hname, Bool.false_eq_true, if_false]
    cases hfunction : registry.function? name with
    | some f =>
      simp only [evalCall, hfunction]
      exact ((means_inOrder registry hargs).bind fun xs => means_located offset (f.apply xs)) scope
    | none =>
      have hother : Text.sameIgnoringCase name integralName = false := by
        simpa [isIntegral, Registry.hasFunction, hfunction] using hname
      simp only [evalCall, hfunction, hother, Bool.false_eq_true, if_false]
      rfl

/-- Evaluation answers with the meaning of the expression and restores the scope. -/
theorem means_eval (e : Expr α) : Means (eval registry e) (meaning registry e) := by
  induction e using Expr.induction with
  | literal value => exact means_pure value
  | variableRef name offset => exact means_variableRef registry name offset
  | unary op operand ih =>
    cases op with
    | neg => exact ih.bind fun x => means_pure (-x)
    | factorial offset => exact ih.bind fun x => means_located offset (Reckoner.factorial x)
  | binary op left right ihLeft ihRight =>
    exact ihLeft.bind fun x => ihRight.bind fun y => means_pure (op.apply x y)
  | call name args offset ih => exact means_evalCall registry offset ih

/-- Evaluation, over whatever the scope binds, answers what the expression means in the environment
of the scope. -/
theorem eval_eq_meaning (e : Expr α) (scope : Scope α) :
    (eval registry e scope).1 = meaning registry e scope.environment :=
  congrArg Prod.fst (means_eval registry e scope)

theorem meaning_integral_literal {name : String} (hname : isIntegral registry name) (x lo hi : α)
    (v : String) (place offset : Nat) (env : Environment α) :
    meaning registry (call name [literal x, variableRef v place, literal lo, literal hi] offset) env
      = Simpson.quadrature (fun _ => .ok x) lo hi := by
  rw [meaning.eq_def]
  simp only [hname, if_true, meaning, bind, Except.bind]

/-- On doubles the sum must be scaled by the step before it is divided: here the sum is infinite and
a third of the step vanishes, so the other order gives no number. And the special form looks at the
shape of its arguments first: an undefined name among three of them is not reported. -/
theorem eval_ne_scaled_by_third :
    evalIn Registry.empty Store.empty
        (call integralName [literal 1e308, variableRef "x" 16, literal 0, literal 5e-321] 0)
      ≠ .ok ((5e-321 - 0) / (integrationIntervals : Float) / ((3 : Nat) : Float) *
          Simpson.weightedTotal (List.replicate (integrationIntervals + 1) 1e308)) ∧
    evalIn (Registry.empty : Registry Float) Store.empty
        (call integralName [variableRef "y" 9, variableRef "x" 12, literal 0] 0)
      ≠ .error ((Cause.undefinedVariable "y").at 9) := by
  have hname : isIntegral (Registry.empty : Registry Float) integralName = true := by
    decide +kernel
  have hsum : Simpson.weightedTotal (List.replicate (integrationIntervals + 1) 1e308)
      = (1 / 0 : Float) := by
    apply Simpson.weightedTotal_replicate
    · decide +kernel
    · intro i
      unfold Simpson.weight
      split
      · decide +kernel
      · split <;> decide +kernel
  constructor
  · have heval := congrArg Prod.fst (means_eval Registry.empty
      (call integralName [literal 1e308, variableRef "x" 16, literal 0, literal 5e-321] 0)
      (Scope.ofStore Store.empty))
    rw [meaning_integral_literal _ hname, Simpson.quadrature_const, hsum] at heval
    rw [evalIn, heval, hsum, Ne, Except.ok.injEq]
    decide +kernel
  · have heval := congrArg Prod.fst (means_eval (Registry.empty : Registry Float)
      (call integralName [variableRef "y" 9, variableRef "x" 12, literal 0] 0)
      (Scope.ofStore Store.empty))
    rw [meaning.eq_def] at heval
    simp only [hname, if_true] at heval
    rw [evalIn, heval]
    intro h
    cases h

/-- Whether it answers or fails, evaluation leaves the stack of bindings as it found it, and all
names keep their values. -/
theorem eval_restores_scope (e : Expr α) (scope : Scope α) :
    (eval registry e scope).2 = scope ∧
      (eval registry e scope).2.locals = scope.locals ∧
      (eval registry e scope).2.depth = scope.depth ∧
      ∀ name, (eval registry e scope).2.value name = scope.value name := by
  have hscope : (eval registry e scope).2 = scope := congrArg Prod.snd (means_eval registry e scope)
  rw [hscope]
  exact ⟨rfl, rfl, rfl, fun _ => rfl⟩

end Expr

end

end Reckoner
