import Reckoner.Library

/-!
# How the library refuses

A rule of the library that has no answer says why, but not where: it does not know the source. And it
never complains about names, which it does not look up.
-/

namespace Reckoner

variable {α β γ : Type}

/-- A failure without a place, and not because of a name that is not defined. -/
structure Failure.IsPlaceless (f : Failure α) : Prop where
  position : f.position = none
  ne_undefinedVariable : ∀ name, f.cause ≠ .undefinedVariable name
  ne_undefinedFunction : ∀ name similar, f.cause ≠ .undefinedFunction name similar

/-- A computation that fails only without a place. -/
def Answer.Refuses (answer : Answer α β) : Prop := ∀ f, answer = .error f → f.IsPlaceless

namespace Answer

theorem refuses_ok (x : β) : Refuses (.ok x : Answer α β) := nofun

theorem refuses_throw {cause : Cause α} (h : cause.failure.IsPlaceless) :
    Refuses (cause.throw : Answer α β) := fun _ hf => Except.error.inj hf ▸ h

theorem Refuses.bind {first : Answer α β} {rest : β → Answer α γ} (hfirst : first.Refuses)
    (hrest : ∀ x, (rest x).Refuses) : (first >>= rest).Refuses := by
  intro f hf
  obtain herror | ⟨x, -, herror⟩ := bind_eq_error_iff.mp hf
  · exact hfirst f herror
  · exact hrest x f herror

theorem Refuses.ite {condition : Prop} [Decidable condition] {yes no : Answer α β}
    (hyes : yes.Refuses) (hno : no.Refuses) : (if condition then yes else no).Refuses := by
  split
  · exact hyes
  · exact hno

/-- A refusal for a fault, and then the rest. -/
theorem Refuses.unless {fault : Prop} [Decidable fault] {refusal : Answer α β} {rest : Answer α γ}
    (hrefusal : refusal.Refuses) (hrest : rest.Refuses) :
    (if fault then refusal >>= fun _ => rest else rest).Refuses :=
  (hrefusal.bind fun _ => hrest).ite hrest

end Answer

open Answer

theorem refuses_malformed (why : Malformed α) : Refuses ((Cause.malformed why).throw : Answer α β) :=
  refuses_throw ⟨rfl, nofun, nofun⟩

theorem refuses_argumentCount (name expected : String) (got : Nat) (usage : Option String) :
    Refuses ((Cause.argumentCount name expected got usage).throw : Answer α β) :=
  refuses_throw ⟨rfl, nofun, nofun⟩

theorem refuses_outOfDomain (why : OutOfDomain α) :
    Refuses ((Cause.outOfDomain why).throw : Answer α β) := refuses_throw ⟨rfl, nofun, nofun⟩

theorem refuses_invalidInput (why : InvalidInput α) :
    Refuses ((Cause.invalidInput why).throw : Answer α β) := refuses_throw ⟨rfl, nofun, nofun⟩

theorem refuses_unsolvable (why : Unsolvable α) :
    Refuses ((Cause.unsolvable why).throw : Answer α β) := refuses_throw ⟨rfl, nofun, nofun⟩

theorem refuses_rateNotFound (iterations : Nat) :
    Refuses ((Cause.rateNotFound iterations).throw : Answer α β) := refuses_throw ⟨rfl, nofun, nofun⟩

theorem refuses_argument (args : List α) (index : Nat) : (argument args index).Refuses := by
  unfold argument
  split
  · exact refuses_ok _
  · exact refuses_malformed _

section

variable [Scalar α]

theorem refuses_factorial (n : α) : (factorial n).Refuses :=
  (refuses_outOfDomain _).ite ((refuses_outOfDomain _).ite (refuses_ok _))

namespace Annuity

theorem refuses_checkRate (what : String) (rate : α) : (checkRate what rate).Refuses :=
  (refuses_invalidInput _).ite (refuses_ok _)

theorem refuses_checkFinite (what : String) (value : α) : (checkFinite what value).Refuses :=
  (refuses_invalidInput _).ite (refuses_ok _)

theorem refuses_payment (pv fv rate n : α) (timing : Timing) :
    (payment pv fv rate n timing).Refuses := (refuses_unsolvable _).ite (refuses_ok _)

theorem refuses_rawPeriods (pv fv pmt rate : α) (timing : Timing) :
    (rawPeriods pv fv pmt rate timing).Refuses :=
  .ite ((refuses_unsolvable _).ite (refuses_ok _))
    ((refuses_unsolvable _).ite ((refuses_ok _).ite (refuses_unsolvable _)))

theorem refuses_numberOfPeriods (pv fv pmt rate : α) (timing : Timing) :
    (numberOfPeriods pv fv pmt rate timing).Refuses := by
  intro f hf
  unfold numberOfPeriods at hf
  split at hf
  · rename_i failure hraw
    cases hf
    exact refuses_rawPeriods pv fv pmt rate timing f hraw
  · exact (refuses_unsolvable _).ite (refuses_ok _) f hf

end Annuity

theorem Problem.refuses_checkGiven (p : Problem α) (qs : List Quantity) :
    (p.checkGiven qs).Refuses := by
  intro f hf
  fun_induction Problem.checkGiven p qs with
  | case1 => cases hf
  | case2 q rest _ ih => exact ih hf
  | case3 q rest value _ failure hfinite =>
    cases hf
    exact Annuity.refuses_checkFinite _ _ f hfinite
  | case4 q rest value _ _ ih => exact ih hf

theorem Problem.refuses_validate (p : Problem α) : p.validate.Refuses := by
  unfold Problem.validate
  dsimp only
  have hperiods : ((if (Scalar.isFinite p.periodsPerYear && decide (0 < p.periodsPerYear)) = true
      then pure () else (Cause.invalidInput .periodsPerYear).throw) : Answer α Unit).Refuses :=
    (refuses_ok _).ite (refuses_invalidInput _)
  refine .unless (refuses_invalidInput _) (.unless (refuses_invalidInput _) ?_)
  refine (p.refuses_checkGiven Quantity.all).bind fun _ => ?_
  split
  · exact (Annuity.refuses_checkRate _ _).bind fun _ => hperiods
  · exact hperiods

namespace SolverConfig

variable (config : SolverConfig α)

theorem refuses_solveRate (pv fv pmt n : α) (timing : Timing) :
    (config.solveRate pv fv pmt n timing).Refuses := by
  unfold solveRate
  refine (refuses_unsolvable _).ite ?_
  dsimp only
  split
  · exact refuses_ok _
  · split
    · exact refuses_ok _
    · exact refuses_rateNotFound _

theorem refuses_solve (p : Problem α) : (config.solve p).Refuses := by
  unfold solve
  refine p.refuses_validate.bind fun _ => ?_
  dsimp only
  split
  · exact refuses_ok _
  · exact refuses_ok _
  · exact (Annuity.refuses_payment _ _ _ _ _).bind fun _ => refuses_ok _
  · exact (Annuity.refuses_numberOfPeriods _ _ _ _ _).bind fun _ => refuses_ok _
  · exact (config.refuses_solveRate _ _ _ _ _).bind fun _ => refuses_ok _

end SolverConfig

namespace Library

open Annuity

theorem refuses_fvRule (args : List α) : (fvRule args).Refuses :=
  (refuses_argument _ _).bind fun _ => (refuses_argument _ _).bind fun _ =>
    (refuses_argument _ _).bind fun _ => (refuses_argument _ _).bind fun _ =>
      (refuses_checkRate _ _).bind fun _ => refuses_ok _

theorem refuses_pvRule (args : List α) : (pvRule args).Refuses :=
  (refuses_argument _ _).bind fun _ => (refuses_argument _ _).bind fun _ =>
    (refuses_argument _ _).bind fun _ => (refuses_argument _ _).bind fun _ =>
      (refuses_checkRate _ _).bind fun _ => refuses_ok _

theorem refuses_pmtRule (args : List α) : (pmtRule args).Refuses :=
  (refuses_argument _ _).bind fun _ => (refuses_argument _ _).bind fun _ =>
    (refuses_argument _ _).bind fun _ => (refuses_checkRate _ _).bind fun _ =>
      refuses_payment _ _ _ _ _

theorem refuses_nperRule (args : List α) : (nperRule args).Refuses :=
  (refuses_argument _ _).bind fun _ => (refuses_argument _ _).bind fun _ =>
    (refuses_argument _ _).bind fun _ => (refuses_argument _ _).bind fun _ =>
      (refuses_checkRate _ _).bind fun _ => refuses_numberOfPeriods _ _ _ _ _

theorem refuses_rateRule (args : List α) : (rateRule args).Refuses :=
  (refuses_argument _ _).bind fun _ => (refuses_argument _ _).bind fun _ =>
    (refuses_argument _ _).bind fun _ => (refuses_argument _ _).bind fun _ =>
      (SolverConfig.refuses_solve _ _).bind fun _ => refuses_ok _

theorem refuses_loanPosition (name : String) (args : List α) : (loanPosition name args).Refuses :=
  (refuses_argument _ _).bind fun _ => (refuses_argument _ _).bind fun _ =>
    (refuses_argument _ _).bind fun _ => (refuses_argument _ _).bind fun _ =>
      (refuses_checkRate _ _).bind fun _ =>
        (refuses_outOfDomain _).ite ((refuses_payment _ _ _ _ _).bind fun _ => refuses_ok _)

theorem refuses_compoundingPeriods (name : String) (periods : α) :
    (compoundingPeriods name periods).Refuses := (refuses_outOfDomain _).ite (refuses_ok _)

theorem refuses_ipmtRule (args : List α) : (ipmtRule args).Refuses :=
  (refuses_loanPosition _ _).bind fun _ => refuses_ok _

theorem refuses_ppmtRule (args : List α) : (ppmtRule args).Refuses :=
  (refuses_loanPosition _ _).bind fun _ => refuses_ok _

theorem refuses_effectRule (args : List α) : (effectRule args).Refuses :=
  (refuses_argument _ _).bind fun _ => (refuses_argument _ _).bind fun _ =>
    (refuses_compoundingPeriods _ _).bind fun _ => refuses_ok _

theorem refuses_nominalRule (args : List α) : (nominalRule args).Refuses :=
  (refuses_argument _ _).bind fun _ => (refuses_argument _ _).bind fun _ =>
    (refuses_compoundingPeriods _ _).bind fun _ => (refuses_checkRate _ _).bind fun _ => refuses_ok _

theorem refuses_of_mem_finance :
    ∀ f ∈ (finance : List (Function α)), ∀ args, (f.rule args).Refuses := by
  simp only [finance, List.forall_mem_cons, financeFunction]
  exact ⟨refuses_fvRule, refuses_pvRule, refuses_pmtRule, refuses_nperRule, refuses_rateRule,
    refuses_ipmtRule, refuses_ppmtRule, refuses_effectRule, refuses_nominalRule,
    List.forall_mem_nil _⟩

end Library

end

namespace Library

theorem refuses_unaryRule (f : Float → Float) (args : List Float) : (unaryRule f args).Refuses :=
  (refuses_argument _ _).bind fun _ => refuses_ok _

theorem refuses_log (args : List Float) : (log.rule args).Refuses := by
  simp only [log]
  split
  · exact refuses_ok _
  · exact refuses_ok _
  · exact refuses_argumentCount _ _ _ _

theorem refuses_round (args : List Float) : (round.rule args).Refuses := by
  simp only [round]
  split
  · exact refuses_ok _
  · exact refuses_ok _
  · exact refuses_argumentCount _ _ _ _

theorem refuses_of_mem_arithmetic : ∀ f ∈ arithmetic, ∀ args, (f.rule args).Refuses := by
  simp only [arithmetic, List.forall_mem_cons]
  refine ⟨refuses_unaryRule _, refuses_unaryRule _, refuses_unaryRule _, refuses_unaryRule _,
    refuses_unaryRule _, refuses_log, fun args => ?_, refuses_round, refuses_unaryRule _,
    refuses_unaryRule _, fun args => ?_, List.forall_mem_nil _⟩
  · exact (refuses_argument _ _).bind fun _ => (refuses_argument _ _).bind fun _ => refuses_ok _
  · exact (refuses_argument _ _).bind fun _ => refuses_factorial _

theorem refuses_of_mem_trigonometry : ∀ f ∈ trigonometry, ∀ args, (f.rule args).Refuses := by
  simp only [trigonometry, List.forall_mem_cons]
  exact ⟨refuses_unaryRule _, refuses_unaryRule _, refuses_unaryRule _, refuses_unaryRule _,
    refuses_unaryRule _, refuses_unaryRule _, List.forall_mem_nil _⟩

theorem refuses_of_mem_aggregate : ∀ f ∈ aggregate, ∀ args, (f.rule args).Refuses := by
  simp only [aggregate, List.forall_mem_cons]
  exact ⟨fun _ => refuses_ok _, fun _ => refuses_ok _, fun _ => refuses_ok _,
    fun _ => refuses_ok _, fun _ => refuses_ok _, List.forall_mem_nil _⟩

theorem refuses_of_mem_full {entry : String × Function Float} (h : entry ∈ full.functions)
    (args : List Float) : (entry.2.rule args).Refuses := by
  obtain h | hfinance := Registry.mem_of_mem_withFunctions h
  · rw [standard, addStandard, Registry.functions_withConstants] at h
    obtain hempty | h := Registry.mem_of_mem_withFunctions h
    · cases hempty
    · obtain h | haggregate := List.mem_append.mp h
      · obtain harithmetic | htrigonometry := List.mem_append.mp h
        · exact refuses_of_mem_arithmetic _ harithmetic args
        · exact refuses_of_mem_trigonometry _ htrigonometry args
      · exact refuses_of_mem_aggregate _ haggregate args
  · exact refuses_of_mem_finance _ hfinance args

/-- No function of the library places its failures or complains about names. -/
theorem refuses_apply {name : String} {f : Function Float} (h : full.function? name = some f)
    (args : List Float) : (f.apply args).Refuses :=
  (refuses_of_mem_full (Registry.mem_of_function?_eq_some h) args).ite
    (refuses_argumentCount _ _ _ _)

end Library

end Reckoner
