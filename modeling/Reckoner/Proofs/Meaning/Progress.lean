import Reckoner.Proofs.Grammar.Origins
import Reckoner.Proofs.Meaning.Failures
import Reckoner.Proofs.Meaning.FreeNames

/-!
# Progress

An expression has a value as soon as its free names have one, its calls are such as cannot be refused
and it has no factorial. The values themselves do not matter: arithmetic never fails. The body of an
integral is read under one more name, which is not free in the integral, so what is asked of the free
names holds again inside.
-/

namespace Reckoner

theorem Answer.exists_mapM_eq_ok {α β γ : Type} (run : β → Answer α γ) {xs : List β}
    (h : ∀ x ∈ xs, ∃ y, run x = .ok y) : ∃ ys, xs.mapM run = .ok ys := by
  cases hrun : xs.mapM run with
  | ok ys => exact ⟨ys, rfl⟩
  | error f =>
    obtain ⟨x, hx, hfails⟩ := exists_mem_of_mapM_eq_error hrun
    obtain ⟨y, hy⟩ := h x hx
    rw [hy] at hfails
    cases hfails

namespace Environment

variable {α : Type} {names names' : List String} {env : Environment α}

/-- Each of the names has a value. -/
def Defines (names : List String) (env : Environment α) : Prop := ∀ name ∈ names, ∃ x, env name = some x

theorem defines_append : Defines (names ++ names') env ↔ Defines names env ∧ Defines names' env :=
  List.forall_mem_append

theorem Defines.mono (h : Defines names' env) (hsub : names ⊆ names') : Defines names env :=
  fun name hname => h name (hsub hname)

theorem Defines.extend {v : String} (h : Defines (names.filter (· != v)) env) (x : α) :
    Defines names (env.extend v x) := by
  intro name hname
  by_cases heq : name = v
  · exact ⟨x, if_pos heq⟩
  · obtain ⟨y, hy⟩ := h name (List.mem_filter.mpr ⟨hname, bne_iff_ne.mpr heq⟩)
    exact ⟨y, (if_neg heq).trans hy⟩

end Environment

variable {α : Type}

theorem Simpson.exists_quadrature_eq_ok [Scalar α] {f : α → Answer α α}
    (h : ∀ t, ∃ y, f t = .ok y) (lo hi : α) : ∃ x, quadrature f lo hi = .ok x := by
  obtain ⟨samples, hsamples⟩ := Answer.exists_mapM_eq_ok
    (fun (i : Nat) => f (lo + (hi - lo) / (integrationIntervals : α) * (i : α)))
    fun i (_ : i ∈ List.range (integrationIntervals + 1)) => h _
  exact ⟨_, Answer.bind_eq_ok_iff.mpr ⟨samples, hsamples, rfl⟩⟩

namespace Expr

open Environment

/-- A call that is not refused whatever its arguments are: the special form over a variable, or a
function that has a value for all arguments of this number. -/
inductive Admits (registry : Registry α) (name : String) (args : List (Expr α)) : Prop where
  | integral (special : isIntegral registry name = true) (shape : AreIntegral args)
  | function (f : Function α) (found : registry.function? name = some f)
      (answers : ∀ values, values.length = args.length → ∃ x, f.apply values = .ok x)

/-- No part of the expression is a factorial, and every call in it is admitted. -/
structure IsSafe (registry : Registry α) (e : Expr α) : Prop where
  calls : ∀ name args offset, Within (call name args offset) e → Admits registry name args
  marks : ∀ operand offset, ¬ Within (unary (.factorial offset) operand) e

variable {registry : Registry α} {env : Environment α} {args : List (Expr α)}

theorem IsSafe.of_within {e part : Expr α} (h : IsSafe registry e)
    (hpart : ∀ inner, Within inner part → Within inner e) : IsSafe registry part where
  calls name args offset hcall := h.calls name args offset (hpart _ hcall)
  marks operand offset hmark := h.marks operand offset (hpart _ hmark)

theorem isIntegral_of_function?_eq_some {name : String} {f : Function α}
    (h : registry.function? name = some f) : isIntegral registry name = false := by
  rw [isIntegral, Registry.hasFunction, h]
  exact Bool.and_false _

theorem freeNames_subset_freeNamesOfEach {e : Expr α} (he : e ∈ args) :
    freeNames registry e ⊆ freeNamesOfEach registry args := by
  induction args with
  | nil => cases he
  | cons first rest ih =>
    rw [freeNamesOfEach]
    obtain rfl | hrest := List.mem_cons.mp he
    · exact List.subset_append_left _ _
    · exact List.Subset.trans (ih hrest) (List.subset_append_right _ _)

variable [Scalar α]

theorem exists_meanings_eq_ok (h : ∀ e ∈ args, ∃ x, meaning registry e env = .ok x) :
    ∃ values, meanings registry args env = .ok values ∧ values.length = args.length := by
  induction args with
  | nil => exact ⟨[], rfl, rfl⟩
  | cons e rest ih =>
    obtain ⟨⟨x, hx⟩, hrest⟩ := List.forall_mem_cons.mp h
    obtain ⟨xs, hxs, hlength⟩ := ih hrest
    refine ⟨x :: xs, ?_, congrArg (· + 1) hlength⟩
    rw [meanings, hx, hxs]
    rfl

/-- Both bounds and all samples of an integral have values. -/
theorem exists_meaning_integral_eq_ok {name : String} {offset : Nat}
    (special : isIntegral registry name = true) (shape : AreIntegral args)
    (ih : ∀ e ∈ args, ∀ env, Defines (freeNames registry e) env → ∃ x, meaning registry e env = .ok x)
    (henv : Defines (freeNames registry (call name args offset)) env) :
    ∃ x, meaning registry (call name args offset) env = .ok x := by
  obtain ⟨body, v, place, lower, upper⟩ := shape
  rw [freeNames.eq_def] at henv
  simp only [special, if_true, defines_append] at henv
  obtain ⟨⟨hbody, hlower⟩, hupper⟩ := henv
  obtain ⟨a, ha⟩ := ih lower (by simp) env hlower
  obtain ⟨b, hb⟩ := ih upper (by simp) env hupper
  obtain ⟨x, hx⟩ := Simpson.exists_quadrature_eq_ok
    (fun t => ih body (by simp) _ (hbody.extend t)) a b
  refine ⟨x, ?_⟩
  rw [meaning_integral special]
  exact Answer.bind_eq_ok_iff.mpr ⟨a, ha, Answer.bind_eq_ok_iff.mpr ⟨b, hb, hx⟩⟩

theorem exists_meaning_call_eq_ok {name : String} {offset : Nat} (admits : Admits registry name args)
    (ih : ∀ e ∈ args, ∀ env, Defines (freeNames registry e) env → ∃ x, meaning registry e env = .ok x)
    (henv : Defines (freeNames registry (call name args offset)) env) :
    ∃ x, meaning registry (call name args offset) env = .ok x := by
  cases admits with
  | integral special shape => exact exists_meaning_integral_eq_ok special shape ih henv
  | function f found answers =>
    have special := isIntegral_of_function?_eq_some found
    rw [freeNames.eq_def] at henv
    simp only [special, Bool.false_eq_true, if_false] at henv
    obtain ⟨values, hvalues, hlength⟩ := exists_meanings_eq_ok fun e he =>
      ih e he env (henv.mono (freeNames_subset_freeNamesOfEach he))
    obtain ⟨x, hx⟩ := answers values hlength
    refine ⟨x, ?_⟩
    rw [meaning_of_not_integral special, found, Option.elim_some, hvalues]
    exact congrArg (Except.mapError _) hx

/-- Over names that have values a safe expression has one. -/
theorem exists_meaning_eq_ok {e : Expr α} (safe : IsSafe registry e)
    (henv : Defines (freeNames registry e) env) : ∃ x, meaning registry e env = .ok x := by
  induction e using Expr.induction generalizing env with
  | literal value => exact ⟨value, rfl⟩
  | variableRef name offset =>
    obtain ⟨x, hx⟩ := henv name List.mem_cons_self
    exact ⟨x, by rw [meaning, hx]⟩
  | unary op operand ih =>
    obtain ⟨x, hx⟩ := ih (safe.of_within fun _ => .operand) henv
    cases op with
    | neg => exact ⟨-x, by rw [meaning, hx]; rfl⟩
    | factorial offset => exact absurd .self (safe.marks operand offset)
  | binary op left right ihLeft ihRight =>
    rw [freeNames, defines_append] at henv
    obtain ⟨x, hx⟩ := ihLeft (safe.of_within fun _ => .left) henv.1
    obtain ⟨y, hy⟩ := ihRight (safe.of_within fun _ => .right) henv.2
    exact ⟨op.apply x y, by rw [meaning, hx, hy]; rfl⟩
  | call name args offset ih =>
    refine exists_meaning_call_eq_ok (safe.calls name args offset .self) (fun e he env => ?_) henv
    exact ih e he (safe.of_within fun _ => .argument he)

end Expr

end Reckoner
