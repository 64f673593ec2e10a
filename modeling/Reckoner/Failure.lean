import Reckoner.Finance.Frequency
import Reckoner.Finance.Quantity
import Reckoner.Report
import Reckoner.Token

/-!
# Failures

Why an operation has no answer, as data. The causes carry what was found, in the numbers that the
operation works with; their wording stands apart, in `Reckoner.Failure.Wording`.
-/

namespace Reckoner

/-- Why a text is no expression. -/
inductive Malformed (α : Type) where
  | invalidNumber (text : String)
  | unexpectedCharacter (c : Char)
  | emptyExpression
  | unexpectedEnd
  /-- A token where an operand must start. -/
  | unexpectedToken (found : Lexeme α)
  /-- A token after a complete expression. -/
  | trailingToken (found : Lexeme α)
  | unmatchedParen
  /-- The parenthesis opened at this offset is never closed. -/
  | missingParen (opened : Nat)
  | tooDeep
  /-- The second argument of an integral must be a variable. -/
  | integralVariable
  /-- A rule was given fewer arguments than it reads. -/
  | missingArgument (index : Nat)
deriving DecidableEq, Repr

/-- Why a function is not defined at its argument. -/
inductive OutOfDomain (α : Type) where
  | notFactorial (n : α)
  | factorialTooLarge (n : α)
  | periodOutsideTerm (function : String) (term period : α)
  | compounding (function : String) (periods : α)
deriving DecidableEq, Repr

/-- Which precondition is violated. -/
inductive InvalidInput (α : Type) where
  | rate (what : String) (rate : α)
  | notFinite (what : String) (value : α)
  | emptyName
  | notAName (name : String)
  | unknownFrequency (text : String)
  /-- Not exactly four of the five quantities are given. -/
  | givenCount (count : Nat)
  | unknownGiven (unknown : Quantity)
  | periodsPerYear
  | principal
  | term
  | termTooLong (periods : α) (frequency : Frequency) (limit : Nat)
  | annualRate
  | downPayment
  | downPaymentTooLarge
  | extraPayment
  | scheduledPayment
deriving DecidableEq, Repr

/-- Why no real number answers the question. -/
inductive Unsolvable (α : Type) where
  | zeroPeriods
  | constantBalance
  | presentValueSign
  | unreachable
  | periods (n : α)
  | rateWithoutPeriods
deriving DecidableEq, Repr

/-- The cause of a failure. -/
inductive Cause (α : Type) where
  | malformed (why : Malformed α)
  | argumentCount (function expected : String) (got : Nat) (usage : Option String)
  | undefinedVariable (name : String)
  /-- With the registered names that look like the one called. -/
  | undefinedFunction (name : String) (similar : List String)
  | outOfDomain (why : OutOfDomain α)
  | invalidInput (why : InvalidInput α)
  | unsolvable (why : Unsolvable α)
  | rateNotFound (iterations : Nat)
  | nonAmortizing (interest payment : α)
  /-- A rule from outside the library reports in its own words. -/
  | reported (report : Report)
deriving DecidableEq, Repr

/-- A cause and, when it is known, its place in the source. -/
structure Failure (α : Type) where
  cause : Cause α
  position : Option Nat
deriving DecidableEq, Repr

namespace Cause

variable {α : Type}

def kind : Cause α → ErrorKind
  | malformed _ => .malformed
  | argumentCount .. => .malformed
  | undefinedVariable _ => .undefinedVariable
  | undefinedFunction .. => .undefinedFunction
  | outOfDomain _ => .domain
  | invalidInput _ => .invalidInput
  | unsolvable _ => .unsolvable
  | rateNotFound _ => .convergence
  | nonAmortizing .. => .nonAmortizing
  | reported r => r.kind

/-- A failure whose place is not known. A report brings its own place. -/
def failure : Cause α → Failure α
  | reported r => ⟨reported { r with position := none }, r.position⟩
  | c => ⟨c, none⟩

def «at» (c : Cause α) (position : Nat) : Failure α := ⟨c, some position⟩

end Cause

namespace Failure

variable {α : Type}

def kind (f : Failure α) : ErrorKind := f.cause.kind

/-- Adds a place unless the failure already has one. -/
def locate (f : Failure α) (position : Nat) : Failure α :=
  match f.position with
  | some _ => f
  | none => { f with position := some position }

end Failure

/-- An answer or the reason why there is none. -/
abbrev Answer (α β : Type) := Except (Failure α) β

/-- The answer that there is none, at a place not yet known. -/
def Cause.throw {α β : Type} (c : Cause α) : Answer α β := .error c.failure

/-- A computation and then another answers when both do, one after the other. -/
theorem Answer.bind_eq_ok_iff {α β γ : Type} {first : Answer α β} {rest : β → Answer α γ} {y : γ} :
    first >>= rest = .ok y ↔ ∃ x, first = .ok x ∧ rest x = .ok y := by
  cases first with
  | error failure => exact ⟨nofun, nofun⟩
  | ok x => exact ⟨fun h => ⟨x, rfl, h⟩, fun ⟨_, hx, h⟩ => Except.ok.inj hx ▸ h⟩

/-- A computation and then another fails when the first one does, or else the other. -/
theorem Answer.bind_eq_error_iff {α β γ : Type} {first : Answer α β} {rest : β → Answer α γ}
    {f : Failure α} :
    first >>= rest = .error f ↔ first = .error f ∨ ∃ x, first = .ok x ∧ rest x = .error f := by
  cases first with
  | error failure =>
    refine ⟨fun h => .inl (congrArg Except.error (Except.error.inj h)), ?_⟩
    rintro (h | ⟨x, hx, -⟩)
    · exact congrArg Except.error (Except.error.inj h)
    · cases hx
  | ok x =>
    refine ⟨fun h => .inr ⟨x, rfl, h⟩, ?_⟩
    rintro (h | ⟨y, hy, h⟩)
    · cases h
    · exact Except.ok.inj hy ▸ h

theorem Answer.exists_mem_of_mapM_eq_error {α β γ : Type} {run : β → Answer α γ} {xs : List β}
    {f : Failure α} (h : xs.mapM run = .error f) : ∃ x ∈ xs, run x = .error f := by
  induction xs with
  | nil => cases h
  | cons x rest ih =>
    rw [List.mapM_cons] at h
    obtain hx | ⟨y, -, hrest⟩ := bind_eq_error_iff.mp h
    · exact ⟨x, List.mem_cons_self, hx⟩
    · obtain hmore | ⟨ys, -, hpure⟩ := bind_eq_error_iff.mp hrest
      · obtain ⟨z, hz, hrun⟩ := ih hmore
        exact ⟨z, List.mem_cons_of_mem x hz, hrun⟩
      · cases hpure

theorem Answer.mapError_eq_error {α β : Type} {answer : Answer α β}
    {change : Failure α → Failure α} {f : Failure α} (h : answer.mapError change = .error f) :
    ∃ failure, answer = .error failure ∧ f = change failure := by
  cases answer with
  | error failure => exact ⟨failure, rfl, (Except.error.inj h).symm⟩
  | ok x => cases h

/-- A check and then the rest answers when both do. -/
theorem Answer.and_then_eq_ok_iff {α β : Type} {check : Answer α Unit} {rest : Answer α β} {y : β} :
    (check >>= fun _ => rest) = .ok y ↔ check = .ok () ∧ rest = .ok y := by
  cases check with
  | error failure => exact ⟨nofun, nofun⟩
  | ok x => exact ⟨fun h => ⟨rfl, h⟩, fun h => h.2⟩

theorem Answer.exists_eq_ok_of_isSome {α β : Type} {answer : Answer α β}
    (h : answer.toOption.isSome = true) : ∃ y, answer = .ok y := by
  cases answer with
  | error failure => cases h
  | ok y => exact ⟨y, rfl⟩

theorem Answer.exists_eq_ok_of_map {α β γ : Type} {answer : Answer α β} {f : β → γ} {z : γ}
    (h : answer.toOption.map f = some z) : ∃ y, answer = .ok y ∧ f y = z := by
  cases answer with
  | error failure => cases h
  | ok y => exact ⟨y, rfl, Option.some_inj.mp h⟩

/-- The failure, where that is the answer. -/
def Answer.failure? {α β : Type} : Answer α β → Option (Failure α)
  | .error failure => some failure
  | .ok _ => none

theorem Answer.eq_error_of_failure? {α β : Type} {answer : Answer α β} {f : Failure α}
    (h : answer.failure? = some f) : answer = .error f := by
  cases answer with
  | error failure => exact congrArg Except.error (Option.some.inj h)
  | ok y => cases h

end Reckoner
