import Reckoner.Calculator
import Reckoner.Proofs.Grammar.EarliestError
import Reckoner.Proofs.Grammar.Origins
import Reckoner.Proofs.Library.Refusals
import Reckoner.Proofs.Meaning.Agreement
import Reckoner.Proofs.Meaning.Failures
import Reckoner.Proofs.Token.Spelling

/-!
# Errors point into the source

With the functions of the library, every failure of an evaluation has a place in the source: where
the source stops being an expression, or else where the part stands that is at fault.
-/

namespace Reckoner

namespace Expr

/-! ## Sources that are no expressions -/

theorem ofTokens_error_le {sourceLength : Nat} {ts : List (Token Float)}
    (hts : ∀ t ∈ ts, t.offset < sourceLength) {f : Failure Float}
    (h : ofTokens sourceLength ts = .error f) : ∃ p, f.position = some p ∧ p ≤ sourceLength := by
  by_cases hne : ts = []
  · subst hne
    cases h
    exact ⟨0, rfl, Nat.zero_le _⟩
  · obtain ⟨t, ht, rfl⟩ | ⟨pre, rest, why, hsplit, -, rfl⟩ := ofTokens_eq_error hne h
    · exact ⟨t.offset, rfl, Nat.le_of_lt (hts t ht)⟩
    · refine ⟨place sourceLength rest, rfl, ?_⟩
      cases rest with
      | nil => exact Nat.le_refl _
      | cons t rest => exact Nat.le_of_lt (hts t (by simp [hsplit]))

theorem parse_error_le {source : String} {f : Failure Float} (h : parse source = .error f) :
    ∃ p, f.position = some p ∧ p ≤ source.length := by
  unfold parse at h
  cases htokens : tokenize source with
  | error failure =>
    rw [htokens] at h
    cases h
    obtain ⟨why, p, rfl, hp⟩ := tokenizeFrom_eq_error 0 htokens
    exact ⟨p, rfl, String.length_toList ▸ Nat.le_of_lt hp⟩
  | ok ts =>
    rw [htokens] at h
    exact ofTokens_error_le (fun t ht => offset_lt_of_mem htokens ht) h

end Expr

/-! ## Parts at fault -/

/-- The part stands in the source as the cause says: an undefined variable or function by its name, a
wrong number of arguments by the name that is called, and anything else by a factorial mark or by the
name of the call whose rule fails. -/
def Cause.PointsAt (source : List Char) (p : Nat) (part : Expr Float) : Cause Float → Prop
  | .undefinedVariable name => part = .variableRef name p ∧ ∃ after, NameAt source p name after
  | .undefinedFunction name _ => ∃ args, part = .call name args p ∧ CalledAt source p name
  | .argumentCount .. => ∃ name args, part = .call name args p ∧ CalledAt source p name
  | _ =>
    (∃ operand, part = .unary (.factorial p) operand ∧ source[p]? = some '!') ∨
      ∃ name args, part = .call name args p ∧ CalledAt source p name

theorem Cause.pointsAt_call {source : List Char} {name : String} {args : List (Expr Float)} {p : Nat}
    (hcalled : CalledAt source p name) {cause : Cause Float}
    (hvariable : ∀ name, cause ≠ .undefinedVariable name)
    (hfunction : ∀ name similar, cause ≠ .undefinedFunction name similar) :
    cause.PointsAt source p (.call name args p) := by
  cases cause with
  | undefinedVariable name => exact absurd rfl (hvariable name)
  | undefinedFunction name similar => exact absurd rfl (hfunction name similar)
  | argumentCount => exact ⟨name, args, rfl, hcalled⟩
  | _ => exact .inr ⟨name, args, rfl, hcalled⟩

theorem Failure.IsPlaceless.locate {f : Failure Float} (h : f.IsPlaceless) (p : Nat) :
    f.locate p = f.cause.at p := by
  rw [Failure.locate, h.position]
  rfl

theorem factorial_eq_error {n : Float} {f : Failure Float} (h : factorial n = .error f) :
    ∃ why, f.cause = .outOfDomain why := by
  unfold factorial at h
  split at h
  · cases h
    exact ⟨_, rfl⟩
  · split at h
    · cases h
      exact ⟨_, rfl⟩
    · cases h

namespace Expr

theorem Reads.within {α : Type} [Scalar α] {registry : Registry α} {part e : Expr α}
    {inner env : Environment α} (h : Reads registry part inner e env) : Within part e := by
  induction h with
  | self => exact .self
  | operand _ ih => exact .operand ih
  | left _ ih => exact .left ih
  | right _ ih => exact .right ih
  | argument mem _ ih => exact .argument mem ih
  | body _ _ ih => exact .argument List.mem_cons_self ih

theorem StandsIn.calledAt {source : String} {ts : List (Token Float)}
    (hts : tokenize source = .ok ts) {name : String} {args : List (Expr Float)} {offset : Nat}
    (h : (call name args offset).StandsIn ts) :
    (∃ t ∈ ts, t.offset = offset) ∧ CalledAt source.toList offset name := by
  obtain ⟨opened, hnext⟩ := h
  exact ⟨⟨_, hnext.subset List.mem_cons_self, rfl⟩, calledAt_of_adjacent hts hnext⟩

/-- A part at fault has an offset, at which its token stands, and the failure of the whole carries
that offset. -/
theorem FailsItself.pointsAt {env : Environment Float} {part : Expr Float} {f : Failure Float}
    (h : FailsItself Library.full env part f) {source : String} {ts : List (Token Float)}
    (hts : tokenize source = .ok ts) (hstands : part.StandsIn ts) :
    ∃ p, f.position = some p ∧ (∃ t ∈ ts, t.offset = p) ∧
      f.cause.PointsAt source.toList p part := by
  cases h with
  | name undefined =>
    exact ⟨_, rfl, ⟨_, hstands, rfl⟩, rfl, nameAt_of_mem hts hstands⟩
  | factorial value fails =>
    obtain ⟨why, hwhy⟩ := factorial_eq_error fails
    rw [(refuses_factorial _ _ fails).locate, hwhy]
    exact ⟨_, rfl, ⟨_, hstands, rfl⟩, .inl ⟨_, rfl, mark_of_mem hts hstands⟩⟩
  | integralCount special count =>
    obtain ⟨htoken, hcalled⟩ := StandsIn.calledAt hts hstands
    exact ⟨_, rfl, htoken, _, _, rfl, hcalled⟩
  | integralVariable special count noVariable =>
    obtain ⟨htoken, hcalled⟩ := StandsIn.calledAt hts hstands
    exact ⟨_, rfl, htoken, .inr ⟨_, _, rfl, hcalled⟩⟩
  | unknown undefined notSpecial =>
    obtain ⟨htoken, hcalled⟩ := StandsIn.calledAt hts hstands
    exact ⟨_, rfl, htoken, _, rfl, hcalled⟩
  | rule defined value fails =>
    obtain ⟨htoken, hcalled⟩ := StandsIn.calledAt hts hstands
    have hplaceless := Library.refuses_apply defined _ _ fails
    rw [hplaceless.locate]
    exact ⟨_, rfl, htoken, Cause.pointsAt_call hcalled hplaceless.ne_undefinedVariable
      hplaceless.ne_undefinedFunction⟩

end Expr

namespace Calculator

/-- With the functions of the library, and whatever variables there are, an evaluation that fails has
a place in the source. When the source is an expression, a token starts there: it is that of the
innermost part at fault, all of whose operands or arguments have values. -/
theorem evaluate_error_position (store : Store Float) (solver : SolverConfig Float)
    (schedules : ScheduleConfig Float) {source : String} {f : Failure Float}
    (h : evaluate ⟨Library.full, store, solver, schedules⟩ source = .error f) :
    ∃ p, f.position = some p ∧ p ≤ source.length ∧
      ∀ e, Expr.parse source = .ok e →
        (∃ ts, tokenize source = .ok ts ∧ ∃ t ∈ ts, t.offset = p) ∧
        ∃ part env, Expr.Reads Library.full part env e (Scope.ofStore store).environment ∧
          Expr.FailsItself Library.full env part f ∧ f.cause.PointsAt source.toList p part := by
  obtain hparse | ⟨e, hparse, h⟩ := Answer.bind_eq_error_iff.mp h
  · obtain ⟨p, hposition, hp⟩ := Expr.parse_error_le hparse
    exact ⟨p, hposition, hp, fun e he => by rw [hparse] at he; cases he⟩
  · obtain hvalue | ⟨x, -, hpure⟩ := Answer.bind_eq_error_iff.mp h
    · rw [Expr.evalIn, congrArg Prod.fst (Expr.means_eval Library.full e (Scope.ofStore store))] at hvalue
      obtain ⟨part, env, hreads, hfails⟩ := Expr.hasCulprit_of_meaning_eq_error e _ f hvalue
      obtain ⟨ts, hts, hall⟩ := Expr.allStandIn_of_parse hparse
      obtain ⟨p, hposition, htoken, hpoints⟩ := hfails.pointsAt hts (hall part hreads.within)
      refine ⟨p, hposition, ?_, fun e' he' => ?_⟩
      · obtain ⟨t, ht, rfl⟩ := htoken
        exact Nat.le_of_lt (offset_lt_of_mem hts ht)
      · rw [hparse] at he'
        cases he'
        exact ⟨⟨ts, hts, htoken⟩, part, env, hreads, hfails, hpoints⟩
    · cases hpure

/-- The inner of two calls, written in other letters and with a blank, is at fault. -/
theorem evaluate_error_position_lnFact :
    ∃ f, evaluate ⟨Library.full, .empty, .standard, .standard⟩ "LN(Fact (0-1))" = .error f ∧
      ∃ p, f.position = some p ∧ p ≤ "LN(Fact (0-1))".length ∧
        ∀ e, Expr.parse "LN(Fact (0-1))" = .ok e →
          (∃ ts, tokenize "LN(Fact (0-1))" = .ok ts ∧ ∃ t ∈ ts, t.offset = p) ∧
          ∃ part env, Expr.Reads Library.full part env e (Scope.ofStore .empty).environment ∧
            Expr.FailsItself Library.full env part f ∧
            f.cause.PointsAt "LN(Fact (0-1))".toList p part := by
  have hfailure : (evaluate ⟨Library.full, .empty, .standard, .standard⟩ "LN(Fact (0-1))").failure? =
      some ((Cause.outOfDomain (.notFactorial (-1))).at 3) := by
    decide +kernel
  have h := Answer.eq_error_of_failure? hfailure
  exact ⟨_, h, evaluate_error_position .empty .standard .standard h⟩

end Calculator

end Reckoner
