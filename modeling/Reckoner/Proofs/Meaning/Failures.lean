import Reckoner.Proofs.Meaning

/-!
# Where evaluation fails

When an expression has no value, some part of it is at fault: everything that part is applied to has
a value, and the failure of the whole is the failure of that part. Nothing on the way out changes it.
-/

namespace Reckoner

namespace Expr

variable {α : Type} [Scalar α]

/-- `part` is read in `inner` while a whole expression is read in an environment. Only the body of an
integral is read in another environment than the integral itself. -/
inductive Reads (registry : Registry α) (part : Expr α) (inner : Environment α) :
    Expr α → Environment α → Prop where
  | self : Reads registry part inner part inner
  | operand {op : UnaryOperator} {e : Expr α} {env : Environment α}
      (h : Reads registry part inner e env) : Reads registry part inner (unary op e) env
  | left {op : BinaryOperator} {l r : Expr α} {env : Environment α}
      (h : Reads registry part inner l env) : Reads registry part inner (binary op l r) env
  | right {op : BinaryOperator} {l r : Expr α} {env : Environment α}
      (h : Reads registry part inner r env) : Reads registry part inner (binary op l r) env
  | argument {name : String} {args : List (Expr α)} {offset : Nat} {arg : Expr α}
      {env : Environment α} (mem : arg ∈ args) (h : Reads registry part inner arg env) :
      Reads registry part inner (call name args offset) env
  | body {name v : String} {e lower upper : Expr α} {place offset : Nat} {env : Environment α} {t : α}
      (special : isIntegral registry name = true)
      (h : Reads registry part inner e (env.extend v t)) :
      Reads registry part inner (call name [e, variableRef v place, lower, upper] offset) env

/-- The expression fails through no fault of an operand or argument: those it needs have values. -/
inductive FailsItself (registry : Registry α) (env : Environment α) : Expr α → Failure α → Prop where
  | name {name : String} {offset : Nat} (undefined : env name = none) :
      FailsItself registry env (variableRef name offset) ((Cause.undefinedVariable name).at offset)
  | factorial {operand : Expr α} {offset : Nat} {x : α} {failure : Failure α}
      (value : meaning registry operand env = .ok x) (fails : Reckoner.factorial x = .error failure) :
      FailsItself registry env (unary (.factorial offset) operand) (failure.locate offset)
  | integralCount {name : String} {args : List (Expr α)} {offset : Nat}
      (special : isIntegral registry name = true) (count : args.length ≠ 4) :
      FailsItself registry env (call name args offset)
        ((Cause.argumentCount integralName "4" args.length
          (some "integral(expression, variable, lower, upper)")).at offset)
  | integralVariable {name : String} {args : List (Expr α)} {offset : Nat}
      (special : isIntegral registry name = true) (count : args.length = 4)
      (noVariable : ∀ v place, args[1]? ≠ some (variableRef v place)) :
      FailsItself registry env (call name args offset) ((Cause.malformed .integralVariable).at offset)
  | unknown {name : String} {args : List (Expr α)} {offset : Nat}
      (undefined : registry.function? name = none) (notSpecial : isIntegral registry name = false) :
      FailsItself registry env (call name args offset) ((registry.undefinedFunction name).at offset)
  | rule {name : String} {args : List (Expr α)} {offset : Nat} {f : Function α} {values : List α}
      {failure : Failure α} (defined : registry.function? name = some f)
      (value : meanings registry args env = .ok values) (fails : f.apply values = .error failure) :
      FailsItself registry env (call name args offset) (failure.locate offset)

variable {registry : Registry α}

theorem exists_mem_of_meanings_eq_error {args : List (Expr α)} {env : Environment α} {f : Failure α}
    (h : meanings registry args env = .error f) :
    ∃ arg ∈ args, meaning registry arg env = .error f := by
  induction args with
  | nil => cases h
  | cons e rest ih =>
    rw [meanings] at h
    obtain he | ⟨x, -, hrest⟩ := Answer.bind_eq_error_iff.mp h
    · exact ⟨e, List.mem_cons_self, he⟩
    · obtain hmore | ⟨xs, -, hpure⟩ := Answer.bind_eq_error_iff.mp hrest
      · obtain ⟨arg, harg, hfails⟩ := ih hmore
        exact ⟨arg, List.mem_cons_of_mem e harg, hfails⟩
      · cases hpure

/-- A part of the expression is at fault for the failure. -/
def HasCulprit (registry : Registry α) (e : Expr α) (env : Environment α) (f : Failure α) : Prop :=
  ∃ part inner, Reads registry part inner e env ∧ FailsItself registry inner part f

theorem HasCulprit.of_self {e : Expr α} {env : Environment α} {f : Failure α}
    (h : FailsItself registry env e f) : HasCulprit registry e env f := ⟨e, env, .self, h⟩

theorem HasCulprit.imp {e e' : Expr α} {env env' : Environment α} {f : Failure α}
    (h : HasCulprit registry e env f)
    (hreads : ∀ part inner, Reads registry part inner e env → Reads registry part inner e' env') :
    HasCulprit registry e' env' f :=
  let ⟨part, inner, hpart, hfails⟩ := h
  ⟨part, inner, hreads part inner hpart, hfails⟩

/-- An integral fails by the shape of its arguments, or because a bound or a sample does. -/
theorem hasCulprit_integral {name : String} {args : List (Expr α)} {offset : Nat}
    {env : Environment α} {f : Failure α} (special : isIntegral registry name = true)
    (ih : ∀ arg ∈ args, ∀ env f, meaning registry arg env = .error f → HasCulprit registry arg env f)
    (h : meaning registry (call name args offset) env = .error f) :
    HasCulprit registry (call name args offset) env f := by
  rw [meaning.eq_def] at h
  simp only [special, if_true] at h
  split at h
  · rename_i body v place lower upper
    obtain hlower | ⟨a, -, h⟩ := Answer.bind_eq_error_iff.mp h
    · exact (ih lower (by simp) env f hlower).imp fun part inner => .argument (by simp)
    · obtain hupper | ⟨b, -, h⟩ := Answer.bind_eq_error_iff.mp h
      · exact (ih upper (by simp) env f hupper).imp fun part inner => .argument (by simp)
      · obtain hsamples | ⟨ys, -, hpure⟩ := Answer.bind_eq_error_iff.mp h
        · obtain ⟨i, -, hsample⟩ := Answer.exists_mem_of_mapM_eq_error hsamples
          exact (ih body (by simp) _ f hsample).imp fun part inner => .body special
        · cases hpure
  · rename_i noVariable
    cases h
    exact .of_self (.integralVariable special rfl fun v place heq => noVariable v place (by simpa using heq))
  · rename_i noVariable noFour
    cases h
    refine .of_self (.integralCount special fun hcount => ?_)
    rcases args with _ | ⟨a, _ | ⟨b, _ | ⟨c, _ | ⟨d, _ | ⟨e, rest⟩⟩⟩⟩⟩ <;> simp at hcount
    exact noFour a b c d rfl

theorem hasCulprit_call {name : String} {args : List (Expr α)} {offset : Nat}
    {env : Environment α} {f : Failure α}
    (ih : ∀ arg ∈ args, ∀ env f, meaning registry arg env = .error f → HasCulprit registry arg env f)
    (h : meaning registry (call name args offset) env = .error f) :
    HasCulprit registry (call name args offset) env f := by
  cases special : isIntegral registry name with
  | true => exact hasCulprit_integral special ih h
  | false =>
    rw [meaning.eq_def] at h
    simp only [special, Bool.false_eq_true, if_false] at h
    split at h
    · rename_i undefined
      cases h
      exact .of_self (.unknown undefined special)
    · rename_i g defined
      obtain hvalues | ⟨values, hvalues, hfails⟩ := Answer.bind_eq_error_iff.mp h
      · obtain ⟨arg, harg, hfails⟩ := exists_mem_of_meanings_eq_error hvalues
        exact (ih arg harg env f hfails).imp fun part inner => .argument harg
      · obtain ⟨failure, hrule, rfl⟩ := Answer.mapError_eq_error hfails
        exact .of_self (.rule defined hvalues hrule)

/-- Whenever an expression has no value, a part of it is at fault. -/
theorem hasCulprit_of_meaning_eq_error (e : Expr α) (env : Environment α) (f : Failure α)
    (h : meaning registry e env = .error f) : HasCulprit registry e env f := by
  induction e using Expr.induction generalizing env f with
  | literal value => cases h
  | variableRef name offset =>
    rw [meaning] at h
    split at h
    · cases h
    · rename_i undefined
      cases h
      exact .of_self (.name undefined)
  | unary op operand ih =>
    cases op with
    | neg =>
      obtain hoperand | ⟨x, -, hpure⟩ := Answer.bind_eq_error_iff.mp h
      · exact (ih env f hoperand).imp fun part inner => .operand
      · cases hpure
    | factorial offset =>
      obtain hoperand | ⟨x, hx, hfails⟩ := Answer.bind_eq_error_iff.mp h
      · exact (ih env f hoperand).imp fun part inner => .operand
      · obtain ⟨failure, hfactorial, rfl⟩ := Answer.mapError_eq_error hfails
        exact .of_self (.factorial hx hfactorial)
  | binary op left right ihLeft ihRight =>
    obtain hleft | ⟨x, -, h⟩ := Answer.bind_eq_error_iff.mp h
    · exact (ihLeft env f hleft).imp fun part inner => .left
    · obtain hright | ⟨y, -, hpure⟩ := Answer.bind_eq_error_iff.mp h
      · exact (ihRight env f hright).imp fun part inner => .right
      · cases hpure
  | call name args offset ih => exact hasCulprit_call ih h

end Expr

end Reckoner
