import Mathlib.Data.List.Basic
import Reckoner.Library
import Reckoner.Proofs.Registry

/-!
# How the library answers

The functions of the standard library are total but for the factorial: a rule has a value for any
arguments, undefined and infinite ones too, as long as their number is one that the function accepts.
In particular it finds every argument that it looks for.
-/

namespace Reckoner

/-- The function has a value for all arguments whose number it accepts. -/
def Function.Answers {α : Type} (f : Function α) : Prop :=
  ∀ args, f.arity.accepts args.length = true → ∃ x, f.rule args = .ok x

theorem Function.Answers.apply {α : Type} {f : Function α} (h : f.Answers) {args : List α}
    (haccepts : f.arity.accepts args.length = true) : ∃ x, f.apply args = .ok x := by
  obtain ⟨x, hx⟩ := h args haccepts
  exact ⟨x, (if_pos haccepts).trans hx⟩

namespace Library

/-! ## The rules -/

theorem answers_unaryFunction {name description usage category : String} {style : Style}
    {f : Float → Float} : (unaryFunction name description usage category style f).Answers := by
  intro args haccepts
  obtain ⟨x, rfl⟩ := List.length_eq_one_iff.mp (eq_of_beq haccepts)
  exact ⟨f x, rfl⟩

theorem answers_aggregateFunction {name description usage : String} {style : Style}
    {f : List Float → Float} : (aggregateFunction name description usage style f).Answers :=
  fun args _ => ⟨f args, rfl⟩

/-- A range from one to two is accepted of one argument or of two. -/
theorem length_cases {args : List Float} (h : (Arity.range 1 2).accepts args.length = true) :
    (∃ x, args = [x]) ∨ ∃ x y, args = [x, y] := by
  rw [Arity.accepts, Bool.and_eq_true, decide_eq_true_eq, decide_eq_true_eq] at h
  obtain hone | htwo : args.length = 1 ∨ args.length = 2 := by omega
  · exact .inl (List.length_eq_one_iff.mp hone)
  · exact .inr (List.length_eq_two.mp htwo)

theorem answers_log : log.Answers := by
  intro args haccepts
  obtain ⟨x, rfl⟩ | ⟨x, base, rfl⟩ := length_cases haccepts
  · exact ⟨_, rfl⟩
  · exact ⟨_, rfl⟩

theorem answers_round : round.Answers := by
  intro args haccepts
  obtain ⟨x, rfl⟩ | ⟨x, digits, rfl⟩ := length_cases haccepts
  · exact ⟨_, rfl⟩
  · exact ⟨_, rfl⟩

theorem answers_pow : pow.Answers := by
  intro args haccepts
  obtain ⟨base, exponent, rfl⟩ := List.length_eq_two.mp (eq_of_beq haccepts)
  exact ⟨_, rfl⟩

theorem answers_of_mem_arithmetic : ∀ f ∈ arithmetic, f.name ≠ "fact" → f.Answers := by
  simp only [arithmetic, List.forall_mem_cons]
  exact ⟨fun _ => answers_unaryFunction, fun _ => answers_unaryFunction,
    fun _ => answers_unaryFunction, fun _ => answers_unaryFunction,
    fun _ => answers_unaryFunction, fun _ => answers_log, fun _ => answers_pow,
    fun _ => answers_round, fun _ => answers_unaryFunction, fun _ => answers_unaryFunction,
    fun hfact => absurd rfl hfact, List.forall_mem_nil _⟩

theorem answers_of_mem_trigonometry : ∀ f ∈ trigonometry, f.Answers := by
  simp only [trigonometry, List.forall_mem_cons]
  exact ⟨answers_unaryFunction, answers_unaryFunction, answers_unaryFunction,
    answers_unaryFunction, answers_unaryFunction, answers_unaryFunction,
    List.forall_mem_nil _⟩

theorem answers_of_mem_aggregate : ∀ f ∈ aggregate, f.Answers := by
  simp only [aggregate, List.forall_mem_cons]
  exact ⟨answers_aggregateFunction, answers_aggregateFunction, answers_aggregateFunction,
    answers_aggregateFunction, answers_aggregateFunction, List.forall_mem_nil _⟩

/-- The functions of the standard library, without the financial ones. -/
def standardFunctions : List (Function Float) := arithmetic ++ trigonometry ++ aggregate

theorem answers_of_mem_standardFunctions {f : Function Float} (hf : f ∈ standardFunctions)
    (hname : f.name ≠ "fact") : f.Answers := by
  obtain hf | haggregate := List.mem_append.mp hf
  · obtain harithmetic | htrigonometry := List.mem_append.mp hf
    · exact answers_of_mem_arithmetic f harithmetic hname
    · exact answers_of_mem_trigonometry f htrigonometry
  · exact answers_of_mem_aggregate f haggregate

/-! ## The table -/

open Registry

/-- What the whole library registers, in order. -/
def registrations : List (Registration Float) :=
  standardFunctions.map .function ++ constants.map .constant ++ finance.map .function

theorem full_eq_ofRegistrations : full = ofRegistrations registrations := by
  rw [registrations, ofRegistrations, List.foldl_append, List.foldl_append, List.foldl_map,
    List.foldl_map, List.foldl_map]
  rfl

theorem functionsOf_registrations :
    Registration.functionsOf registrations = standardFunctions ++ finance := rfl

/-- No two functions of the library have one name. -/
theorem eq_of_key_eq : ∀ f ∈ standardFunctions ++ finance, ∀ g ∈ standardFunctions ++ finance,
    f.key = g.key → f = g := by
  have hnodup : ((standardFunctions ++ finance).map Function.key).Nodup := by decide +kernel
  intro f hf g hg hkey
  have hfound := (find?_eq_some_iff_of_nodup hnodup).mpr ⟨hf, hkey⟩
  have hfound' := (find?_eq_some_iff_of_nodup hnodup).mpr ⟨hg, rfl⟩
  exact Option.some.inj (hfound.symm.trans hfound')

/-- Every spelling of the name of a function finds it. -/
theorem function?_full_eq_some_iff {name : String} {f : Function Float} :
    full.function? name = some f ↔ f ∈ standardFunctions ++ finance ∧ f.key = Text.lower name := by
  rw [full_eq_ofRegistrations, (records_ofRegistrations registrations).function?_eq_some_iff,
    functionsOf_registrations, lastOf_iff_mem eq_of_key_eq]

theorem hasFunction_full_integralName : full.hasFunction integralName = false := by decide +kernel

end Library

end Reckoner
