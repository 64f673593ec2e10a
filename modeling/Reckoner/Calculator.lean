import Reckoner.Catalog
import Reckoner.Expr.Eval
import Reckoner.Failure.Wording
import Reckoner.Finance.Schedule
import Reckoner.Finance.Solver
import Reckoner.Library
import Reckoner.Markup

/-!
# The calculator

One session: a registry, the variables defined so far, and the tuning of the solver and of
schedules. Evaluation never changes a session; a definition changes one variable or nothing.
-/

namespace Reckoner

/-- The value of an expression with its display markup. -/
structure Evaluated where
  value : Float
  markup : String

/-- A line of a document after evaluation. -/
structure Line where
  /-- The text as typed. -/
  source : String
  /-- Markup, or the text itself when it is no expression. -/
  markup : String
  value : Option Float
  error : Option String
  /-- The variable that the line defines. -/
  assignedTo : Option String

def Line.isError (line : Line) : Bool := line.error.isSome

structure Calculator where
  registry : Registry Float
  store : Store Float
  solver : SolverConfig Float
  schedules : ScheduleConfig Float

namespace Calculator

/-- A session over a registry, whose constants it starts with. -/
def ofRegistry (registry : Registry Float) : Calculator :=
  ⟨registry, .ofRegistry registry, .standard, .standard⟩

/-- A session with everything the library has. -/
def standard : Calculator := ofRegistry Library.full

def evaluate (c : Calculator) (source : String) : Answer Float Evaluated := do
  let e ← Expr.parse source
  let value ← Expr.evalIn c.registry c.store e
  return ⟨value, Markup.renderDisplay c.registry e⟩

/-- Display markup of a source; a source that is no expression is given back as it is. -/
def markup (c : Calculator) (source : String) : String := Markup.ofSource c.registry source

/-- Evaluates a source and keeps the result as a variable. The session comes with the answer also
after a failure. -/
def assign (c : Calculator) (name source : String) : Answer Float Evaluated × Calculator :=
  if !isName name then ((Cause.invalidInput (.notAName name)).throw, c)
  else
    match c.evaluate source with
    | .error failure => (.error failure, c)
    | .ok result =>
      match c.store.set ⟨name, result.value, some (Text.trim source), some result.markup⟩ with
      | .error failure => (.error failure, c)
      | .ok store => (.ok result, { c with store := store })

/-- The same for callers that go on with the session only after a success. -/
def define (c : Calculator) (name source : String) : Answer Float (Evaluated × Calculator) :=
  let done := c.assign name source
  done.1.map fun result => (result, done.2)

/-- Gives a variable a value with no expression behind it. -/
def setVariable (c : Calculator) (name : String) (value : Float) : Answer Float Calculator := do
  let store ← c.store.set (.ofValue name value)
  return { c with store := store }

/-- A line `name = expression` in its parts, if a single name stands before the first equals sign. -/
def splitAssignment? (line : String) : Option (String × String) :=
  match Text.splitFirst? '=' line.toList with
  | none => none
  | some (before, after) =>
    let name := String.ofList (Text.trimChars before)
    if isName name then some (name, String.ofList after) else none

/-- The markup of a line with its assignment, or the line itself when its expression is none. -/
def lineMarkup (c : Calculator) (line : String) (assigned : Option String) (source : String) :
    String :=
  match Expr.parse source, assigned with
  | .ok e, some name =>
    Markup.display (Markup.renderName c.registry name ++ " = " ++ Markup.render c.registry e)
  | .ok e, none => Markup.renderDisplay c.registry e
  | .error _, _ => line

/-- The line that shows an outcome. -/
def lineOf (line markup : String) (assigned : Option String) : Answer Float Evaluated → Line
  | .ok result => ⟨line, markup, some result.value, none, assigned⟩
  | .error failure => ⟨line, markup, none, some failure.report.display, assigned⟩

/-- Evaluates a line of a document, with or without an assignment. Failures are part of the line. -/
def evaluateLine (c : Calculator) (line : String) : Line × Calculator :=
  match splitAssignment? line with
  | some (name, source) =>
    let done := c.assign name source
    (lineOf line (c.lineMarkup line (some name) source) (some name) done.1, done.2)
  | none => (lineOf line (c.lineMarkup line none line) none (c.evaluate line), c)

/-- Drops a user variable. -/
def removeVariable (c : Calculator) (name : String) : Calculator :=
  { c with store := c.store.remove name }

/-- Drops all user variables. -/
def clearVariables (c : Calculator) : Calculator := { c with store := c.store.clear }

def solve (c : Calculator) (p : Problem Float) : Answer Float (Solution Float) := c.solver.solve p

def amortize (c : Calculator) (loan : Loan Float) : Answer Float (Schedule Float) :=
  c.schedules.schedule loan

def suggest (_ : Calculator) (input : String) (limit : Nat) : List Suggestion :=
  Catalog.suggest input limit

end Calculator

/-- The frequency that a text names, in any case and with blanks around it. -/
def Frequency.parse {α : Type} (text : String) : Answer α Frequency :=
  match ofName? (Text.lower (Text.trim text)) with
  | some f => .ok f
  | none => (Cause.invalidInput (.unknownFrequency text)).throw

end Reckoner
