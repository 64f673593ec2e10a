import Reckoner.Calculator
import Reckoner.Proofs.Library.Answers
import Reckoner.Proofs.Meaning.Progress
import Reckoner.Proofs.Meaning.Renaming
import Reckoner.Proofs.Token.Spelling

/-!
# Well-formed sources cannot fail

With the functions of the library a source has a value when it is an expression whose free names are
defined, in which every call is an integral over a variable or a call of a function of the standard
library other than the factorial, with a number of arguments that this function accepts, and in which
there is no factorial mark. Which values the names have is of no importance.
-/

namespace Reckoner

namespace Library

/-- A function of the standard library other than the factorial, in any spelling of its name, takes
this number of arguments. -/
def Takes (name : String) (count : Nat) : Prop :=
  ∃ f ∈ standardFunctions, f.name ≠ "fact" ∧ f.key = Text.lower name ∧ f.arity.accepts count = true

theorem Takes.exists_function {name : String} {count : Nat} (h : Takes name count) :
    ∃ f, full.function? name = some f ∧ f.Answers ∧ f.arity.accepts count = true := by
  obtain ⟨f, hf, hname, hkey, haccepts⟩ := h
  exact ⟨f, function?_full_eq_some_iff.mpr ⟨List.mem_append_left finance hf, hkey⟩,
    answers_of_mem_standardFunctions hf hname, haccepts⟩

end Library

open Reckoner.Expr

theorem Library.Takes.admits {name : String} {args : List (Expr Float)}
    (h : Takes name args.length) : Admits full name args := by
  obtain ⟨f, hfound, hanswers, haccepts⟩ := h.exists_function
  exact .function f hfound fun values hlength => hanswers.apply (hlength ▸ haccepts)

theorem Expr.admits_integral {name : String} {args : List (Expr Float)}
    (hname : Text.sameIgnoringCase name integralName = true) (shape : AreIntegral args) :
    Admits Library.full name args :=
  .integral (isIntegral_of_sameIgnoringCase Library.hasFunction_full_integralName hname) shape

/-- What stands for a factorial in the tree is a mark in the source. -/
theorem Expr.not_within_factorial {source : String} {e : Expr Float} (hparse : parse source = .ok e)
    (hmark : '!' ∉ source.toList) (operand : Expr Float) (offset : Nat) :
    ¬ Within (unary (.factorial offset) operand) e := by
  intro hpart
  obtain ⟨ts, hts, hall⟩ := allStandIn_of_parse hparse
  have hstands : source.toList[offset]? = some '!' := mark_of_mem hts (hall _ hpart)
  exact hmark (List.mem_of_getElem? hstands)

theorem Store.defines_of_value {store : Store Float} {names : List String}
    (h : ∀ name ∈ names, ∃ x, store.value name = .ok x) :
    Environment.Defines names (Scope.ofStore store).environment := by
  intro name hname
  obtain ⟨x, hx⟩ := h name hname
  have hvalue : (Scope.ofStore store).value name = .ok x := hx
  rw [Scope.value_eq] at hvalue
  cases henv : (Scope.ofStore store).environment name with
  | some y => exact ⟨y, rfl⟩
  | none =>
    rw [henv] at hvalue
    cases hvalue

namespace Calculator

/-- A source that parses has a value when its free names are defined, its calls are integrals or calls
of standard functions with the arguments that these take, and it has no factorial mark. Whatever values
the arguments of a call have, the rule of its function finds all those that it looks for. -/
theorem evaluate_progress (store : Store Float) (solver : SolverConfig Float)
    (schedules : ScheduleConfig Float) {source : String} {e : Expr Float}
    (hparse : Expr.parse source = .ok e)
    (hnames : ∀ name ∈ freeNames Library.full e, ∃ x, store.value name = .ok x)
    (hcalls : ∀ name args offset, Within (.call name args offset) e →
      Text.sameIgnoringCase name integralName = true ∧ AreIntegral args ∨
        Library.Takes name args.length)
    (hmark : '!' ∉ source.toList) :
    (∃ result, evaluate ⟨Library.full, store, solver, schedules⟩ source = .ok result) ∧
    ∀ name args offset f, Within (.call name args offset) e → Library.full.function? name = some f →
      ∀ values, values.length = args.length → ∃ x, f.rule values = .ok x := by
  have safe : IsSafe Library.full e := by
    refine ⟨fun name args offset hcall => ?_, not_within_factorial hparse hmark⟩
    obtain ⟨hname, shape⟩ | htakes := hcalls name args offset hcall
    · exact admits_integral hname shape
    · exact htakes.admits
  constructor
  · obtain ⟨x, hx⟩ := exists_meaning_eq_ok safe (Store.defines_of_value hnames)
    have hvalue : evalIn Library.full store e = .ok x :=
      (eval_eq_meaning Library.full e (Scope.ofStore store)).trans hx
    refine ⟨⟨x, Markup.renderDisplay Library.full e⟩, ?_⟩
    exact Answer.bind_eq_ok_iff.mpr ⟨e, hparse, Answer.bind_eq_ok_iff.mpr ⟨x, hvalue, rfl⟩⟩
  · intro name args offset f hcall hfound values hlength
    obtain ⟨hname, -⟩ | htakes := hcalls name args offset hcall
    · have special := isIntegral_of_sameIgnoringCase Library.hasFunction_full_integralName hname
      rw [isIntegral_of_function?_eq_some hfound] at special
      cases special
    · obtain ⟨g, hg, hanswers, haccepts⟩ := htakes.exists_function
      obtain rfl : g = f := Option.some.inj (hg.symm.trans hfound)
      exact hanswers values (hlength ▸ haccepts)

/-- A store in which the value of `y` is no number. -/
def undefinedStore : Store Float := ⟨[("y", 0 / 0)], [], .nil⟩

/-- The tree of an integral over an empty range, with samples that are infinite or no numbers. -/
def undefinedSamples : Expr Float :=
  .call "Integral"
    [.call "MAX"
      [.binary .div (.variableRef "x" 13) (.literal (Decimal.toFloat ⟨0, 0⟩)), .variableRef "y" 17] 9,
     .variableRef "x" 20, .literal (Decimal.toFloat ⟨1, 0⟩), .literal (Decimal.toFloat ⟨1, 0⟩)] 0

theorem evaluate_progress_undefinedSamples :
    Expr.parse "Integral(MAX(x/0,y),x,1,1)" = .ok undefinedSamples ∧
    (∀ name ∈ freeNames Library.full undefinedSamples, ∃ x, undefinedStore.value name = .ok x) ∧
    (∀ name args offset, Within (.call name args offset) undefinedSamples →
      Text.sameIgnoringCase name integralName = true ∧ AreIntegral args ∨
        Library.Takes name args.length) ∧
    '!' ∉ "Integral(MAX(x/0,y),x,1,1)".toList ∧
    ∃ result, evaluate ⟨Library.full, undefinedStore, .standard, .standard⟩
      "Integral(MAX(x/0,y),x,1,1)" = .ok result := by
  have hparse : Expr.parse "Integral(MAX(x/0,y),x,1,1)" = .ok undefinedSamples := by
    with_unfolding_all rfl
  have hfree : freeNames Library.full undefinedSamples = ["y"] := by decide +kernel
  have hnames : ∀ name ∈ freeNames Library.full undefinedSamples,
      ∃ x, undefinedStore.value name = .ok x := by
    rw [hfree]
    exact List.forall_mem_singleton.mpr ⟨0 / 0, rfl⟩
  have hmax : Library.Takes "MAX" 2 :=
    ⟨Library.max, by simp [Library.standardFunctions, Library.aggregate], by decide,
      by decide +kernel, rfl⟩
  have hcalls : ∀ name args offset, Within (.call name args offset) undefinedSamples →
      Text.sameIgnoringCase name integralName = true ∧ AreIntegral args ∨
        Library.Takes name args.length := by
    intro name args offset hcall
    unfold undefinedSamples at hcall
    cases hcall with
    | self => exact .inl ⟨by decide +kernel, .intro ..⟩
    | argument mem hcall =>
      simp only [List.mem_cons, List.not_mem_nil, or_false] at mem
      obtain rfl | rfl | rfl | rfl := mem
      · cases hcall with
        | self => exact .inr hmax
        | argument mem hcall =>
          simp only [List.mem_cons, List.not_mem_nil, or_false] at mem
          obtain rfl | rfl := mem
          · cases hcall with
            | left hcall => cases hcall
            | right hcall => cases hcall
          · cases hcall
      all_goals cases hcall
  have hmark : '!' ∉ "Integral(MAX(x/0,y),x,1,1)".toList := by decide +kernel
  exact ⟨hparse, hnames, hcalls, hmark,
    (evaluate_progress undefinedStore .standard .standard hparse hnames hcalls hmark).1⟩

end Calculator

end Reckoner
