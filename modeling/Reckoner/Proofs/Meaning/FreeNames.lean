import Reckoner.Proofs.Meaning.Agreement

/-!
# Free names

The names that an expression takes from outside: an integral binds its variable in its body and
nowhere else, and the name of a call is no variable. Evaluation depends on a scope only through what
the free names stand for in it.
-/

namespace Reckoner

/-- The environments give the same value, or none, to each of the names. -/
def Environment.AgreeOn {α : Type} (names : List String) (env env' : Environment α) : Prop :=
  ∀ name ∈ names, env name = env' name

section

variable {α : Type} {names names' : List String} {env env' : Environment α}

theorem Environment.agreeOn_append :
    AgreeOn (names ++ names') env env' ↔ AgreeOn names env env' ∧ AgreeOn names' env env' :=
  List.forall_mem_append

/-- Under one more binding the environments agree also on the name that it binds. -/
theorem Environment.AgreeOn.extend {v : String} (h : AgreeOn (names.filter (· != v)) env env')
    (x : α) : AgreeOn names (env.extend v x) (env'.extend v x) := by
  intro name hname
  by_cases heq : name = v
  · simp only [Environment.extend, heq, if_true]
  · simp only [Environment.extend, heq, if_false]
    exact h name (List.mem_filter.mpr ⟨hname, bne_iff_ne.mpr heq⟩)

theorem Scope.environment_eq_of_value_eq {s t : Scope α} {name : String}
    (h : s.value name = t.value name) : s.environment name = t.environment name := by
  rw [s.value_eq, t.value_eq] at h
  cases hs : s.environment name <;> cases ht : t.environment name <;> rw [hs, ht] at h <;> cases h
  all_goals rfl

end

namespace Expr

variable {α : Type} [Scalar α] (registry : Registry α)

mutual

/-- The names whose values an expression takes from outside, once for each place. -/
def freeNames : Expr α → List String
  | literal _ => []
  | variableRef name _ => [name]
  | unary _ operand => freeNames operand
  | binary _ left right => freeNames left ++ freeNames right
  | call name args _ =>
    if isIntegral registry name then
      match args with
      | [body, variableRef v _, lower, upper] =>
        (freeNames body).filter (· != v) ++ freeNames lower ++ freeNames upper
      | args => freeNamesOfEach args
    else freeNamesOfEach args

/-- The free names of a list of expressions. -/
def freeNamesOfEach : List (Expr α) → List String
  | [] => []
  | e :: rest => freeNames e ++ freeNamesOfEach rest

end

open Environment

variable {registry}

theorem meanings_congr {args : List (Expr α)} {env env' : Environment α}
    (hargs : ∀ e ∈ args, AgreeOn (freeNames registry e) env env' →
      meaning registry e env = meaning registry e env')
    (h : AgreeOn (freeNamesOfEach registry args) env env') :
    meanings registry args env = meanings registry args env' := by
  induction args with
  | nil => rfl
  | cons e rest ih =>
    rw [freeNamesOfEach, agreeOn_append] at h
    rw [meanings, meanings, hargs e List.mem_cons_self h.1,
      ih (fun e' he' => hargs e' (List.mem_cons_of_mem e he')) h.2]

theorem meaning_integral_congr {name : String} {args : List (Expr α)} {offset : Nat}
    {env env' : Environment α} (special : isIntegral registry name = true)
    (hargs : ∀ e ∈ args, ∀ env env', AgreeOn (freeNames registry e) env env' →
      meaning registry e env = meaning registry e env')
    (h : AgreeOn (freeNames registry (call name args offset)) env env') :
    meaning registry (call name args offset) env = meaning registry (call name args offset) env' := by
  by_cases shape : AreIntegral args
  · obtain ⟨body, v, place, lower, upper⟩ := shape
    rw [freeNames.eq_def] at h
    simp only [special, if_true, agreeOn_append] at h
    obtain ⟨⟨hbody, hlower⟩, hupper⟩ := h
    have hsample : ∀ x, meaning registry body (env.extend v x) =
        meaning registry body (env'.extend v x) := fun x =>
      hargs body (by simp) _ _ (hbody.extend x)
    rw [meaning_integral special, meaning_integral special, hargs lower (by simp) _ _ hlower,
      hargs upper (by simp) _ _ hupper]
    simp only [hsample]
  · rw [meaning_malformedIntegral special shape, meaning_malformedIntegral special shape]

/-- The meaning of an expression depends only on what its free names stand for. -/
theorem meaning_congr {e : Expr α} {env env' : Environment α}
    (h : AgreeOn (freeNames registry e) env env') :
    meaning registry e env = meaning registry e env' := by
  induction e using Expr.induction generalizing env env' with
  | literal value => rfl
  | variableRef name offset =>
    rw [meaning, meaning, h name List.mem_cons_self]
  | unary op operand ih =>
    rw [freeNames] at h
    cases op with
    | neg => rw [meaning, meaning, ih h]
    | factorial offset => rw [meaning, meaning, ih h]
  | binary op left right ihLeft ihRight =>
    rw [freeNames, agreeOn_append] at h
    rw [meaning, meaning, ihLeft h.1, ihRight h.2]
  | call name args offset ih =>
    cases special : isIntegral registry name with
    | true => exact meaning_integral_congr special (fun e he env env' => ih e he) h
    | false =>
      rw [freeNames.eq_def] at h
      simp only [special, Bool.false_eq_true, if_false] at h
      rw [meaning_of_not_integral special, meaning_of_not_integral special,
        meanings_congr (fun e he => ih e he) h]

/-- With nothing bound, evaluation depends only on the values that the store has for the free names. -/
theorem evalIn_congr {registry : Registry α} {s t : Store α} {e : Expr α}
    (h : ∀ name ∈ freeNames registry e, s.value name = t.value name) :
    evalIn registry s e = evalIn registry t e := by
  have hagree : AgreeOn (freeNames registry e) (Scope.ofStore s).environment
      (Scope.ofStore t).environment := fun name hname =>
    Scope.environment_eq_of_value_eq (h name hname)
  rw [evalIn, evalIn, congrArg Prod.fst (means_eval registry e (Scope.ofStore s)),
    congrArg Prod.fst (means_eval registry e (Scope.ofStore t))]
  exact meaning_congr hagree

/-- Two scopes that give the same value, or none, to every free name of an expression give it the same
value, or the same failure at the same place. -/
theorem eval_eq_of_value_eq (registry : Registry α) (e : Expr α) (s t : Scope α)
    (h : ∀ name ∈ freeNames registry e, s.value name = t.value name) :
    (eval registry e s).1 = (eval registry e t).1 := by
  have hagree : AgreeOn (freeNames registry e) s.environment t.environment := fun name hname =>
    Scope.environment_eq_of_value_eq (h name hname)
  rw [congrArg Prod.fst (means_eval registry e s), congrArg Prod.fst (means_eval registry e t)]
  exact meaning_congr hagree

/-- The name that the integral binds is bound around it in one of the scopes and undefined in the other,
and its free name is bound in one and a constant in the other. -/
theorem eval_eq_of_value_eq_boundElsewhere :
    (∀ name ∈ freeNames (Registry.empty : Registry Float)
        (call "Integral" [binary .mul (variableRef "x" 9) (variableRef "y" 11), variableRef "x" 14,
          literal 0, variableRef "y" 20] 0),
      Scope.value ⟨.empty, [("x", (5 : Float)), ("y", 2)]⟩ name =
        Scope.value ⟨⟨[("y", 2)], [], .nil⟩, []⟩ name) ∧
    (eval (Registry.empty : Registry Float)
        (call "Integral" [binary .mul (variableRef "x" 9) (variableRef "y" 11), variableRef "x" 14,
          literal 0, variableRef "y" 20] 0) ⟨.empty, [("x", 5), ("y", 2)]⟩).1 =
      (eval Registry.empty
        (call "Integral" [binary .mul (variableRef "x" 9) (variableRef "y" 11), variableRef "x" 14,
          literal 0, variableRef "y" 20] 0) ⟨⟨[("y", 2)], [], .nil⟩, []⟩).1 := by
  have hfree : freeNames (Registry.empty : Registry Float)
      (call "Integral" [binary .mul (variableRef "x" 9) (variableRef "y" 11), variableRef "x" 14,
        literal 0, variableRef "y" 20] 0) = ["y", "y"] := by
    decide +kernel
  have hvalue : ∀ name ∈ ["y", "y"], Scope.value ⟨.empty, [("x", (5 : Float)), ("y", 2)]⟩ name =
      Scope.value ⟨⟨[("y", 2)], [], .nil⟩, []⟩ name := by
    intro name hname
    obtain rfl : name = "y" := by simpa using hname
    rfl
  rw [← hfree] at hvalue
  exact ⟨hvalue, eval_eq_of_value_eq _ _ _ _ hvalue⟩

end Expr

end Reckoner
