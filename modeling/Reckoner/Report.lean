import Reckoner.Decimal.Fixed

/-!
# Error reports

The written form of a failure: its kind, a code for programs, a message for people, and, where they
are known, advice and the place in the source.
-/

namespace Reckoner

/-- The category of a failure. Callers branch on this, not on the message. -/
inductive ErrorKind where
  /-- The text is no expression, or a call has the wrong shape. -/
  | malformed
  /-- A name is neither a constant nor a variable. -/
  | undefinedVariable
  /-- A called name is no function. -/
  | undefinedFunction
  /-- A function is not defined at its argument. -/
  | domain
  /-- A precondition of a solver, a schedule or the store is violated. -/
  | invalidInput
  /-- No real number answers the question. -/
  | unsolvable
  /-- A search for a rate ended without one. -/
  | convergence
  /-- A payment does not cover the first interest. -/
  | nonAmortizing
deriving DecidableEq, Repr

namespace ErrorKind

def all : List ErrorKind :=
  [malformed, undefinedVariable, undefinedFunction, domain, invalidInput, unsolvable, convergence,
    nonAmortizing]

/-- The code that a report of this kind carries unless it has a code of its own. -/
def code : ErrorKind → String
  | malformed => "SYNTAX_ERROR"
  | undefinedVariable => "UNDEFINED_VAR"
  | undefinedFunction => "UNDEFINED_FUNC"
  | domain => "DOMAIN_ERROR"
  | invalidInput => "INVALID_INPUT"
  | unsolvable => "UNSOLVABLE"
  | convergence => "CONVERGENCE"
  | nonAmortizing => "NON_AMORTIZING"

end ErrorKind

/-- A failure as it is shown and stored. -/
structure Report where
  kind : ErrorKind
  code : String
  message : String
  suggestion : Option String
  /-- Characters before the offending place in the source. -/
  position : Option Nat
deriving DecidableEq, Repr

namespace Report

/-- The code of a call with the wrong number of arguments. -/
def argumentCountCode : String := "ARG_COUNT"

/-- Every code that a report built here can carry. -/
def codes : List String :=
  ["SYNTAX_ERROR", argumentCountCode, "UNDEFINED_VAR", "UNDEFINED_FUNC", "DOMAIN_ERROR",
    "INVALID_INPUT", "UNSOLVABLE", "CONVERGENCE", "NON_AMORTIZING"]

/-- A report with the code of its kind and nothing else known. -/
def ofKind (kind : ErrorKind) (message : String) : Report :=
  ⟨kind, kind.code, message, none, none⟩

def withSuggestion (r : Report) (s : String) : Report := { r with suggestion := some s }

def withCode (r : Report) (code : String) : Report := { r with code := code }

def «at» (r : Report) (position : Nat) : Report := { r with position := some position }

/-- One line with the code in brackets. -/
def display (r : Report) : String := "[" ++ r.code ++ "] " ++ r.message

def malformed (details : String) : Report :=
  (ofKind .malformed ("Syntax error: " ++ details)).withSuggestion "Check the expression syntax"

def argumentCount (function expected : String) (got : Nat) : Report :=
  (ofKind .malformed
    (function ++ "() expects " ++ expected ++ " arguments, got " ++ toString got)).withCode
    argumentCountCode

def undefinedVariable (name : String) : Report :=
  (ofKind .undefinedVariable ("Undefined variable: " ++ name)).withSuggestion
    ("Define '" ++ name ++ "' or check spelling")

def undefinedFunction (name : String) : Report :=
  ofKind .undefinedFunction ("Unknown function: " ++ name)

def domain (details : String) : Report := ofKind .domain ("Domain error: " ++ details)

def invalidInput (details : String) : Report := ofKind .invalidInput ("Invalid input: " ++ details)

def unsolvable (details : String) : Report :=
  (ofKind .unsolvable ("Unsolvable: " ++ details)).withSuggestion
    "Check the signs and magnitudes of the known values"

def convergence (details : String) : Report :=
  (ofKind .convergence ("Did not converge: " ++ details)).withSuggestion
    "Rate cannot be determined; try a different initial guess"

def nonAmortizing (interest payment : Float) : Report :=
  (ofKind .nonAmortizing
    ("Payment " ++ Decimal.fixedText 2 payment ++ " does not cover first-period interest " ++
      Decimal.fixedText 2 interest)).withSuggestion "Raise the payment or shorten the term"

end Report

end Reckoner
