import Reckoner.Persist.Document
import Reckoner.Persist.Expression
import Reckoner.Persist.Finance
import Reckoner.Persist.Report
import Reckoner.Proofs.Persist.Fields

/-!
# Stored data comes back

Everything that can be written as JSON and read again is read as what was written, if all doubles in it
are finite. Fields that are left out, fields with a value of their own when they are missing and fields
that may be `null` have a reader that agrees with the writer.
-/

namespace Reckoner

open Json Scalar

/-! ## Documents -/

/-- A variable whose value is infinite or undefined cannot be read. -/
theorem Variable.ofJson?_toJson (v : Variable Float) :
    ofJson? v.toJson = (finite? v.value).map fun value => { v with value := value } := by
  simp [ofJson?, toJson, List.lookup_append, List.lookup_cons]
  cases finite? v.value <;> rfl

/-- A line whose value is infinite or undefined is read as a line without a value. -/
theorem Line.ofJson?_toJson (line : Line) :
    ofJson? line.toJson = some { line with value := line.value.bind finite? } := by
  simp [ofJson?, toJson, List.lookup_append, List.lookup_cons]

theorem Evaluated.ofJson?_toJson {e : Evaluated} (h : e.value.isFinite = true) :
    ofJson? e.toJson = some e := by
  simp [ofJson?, toJson, List.lookup_cons, finite?_eq_some h]

theorem Suggestion.ofJson?_toJson (s : Suggestion) : ofJson? s.toJson = some s := by
  simp [ofJson?, toJson, List.lookup_cons]

theorem Constant.ofJson?_toJson {c : Constant Float} (h : c.value.isFinite = true) :
    ofJson? c.toJson = some c := by
  simp [ofJson?, toJson, List.lookup_append, List.lookup_cons, finite?_eq_some h]

theorem ErrorKind.ofJson?_toJson (kind : ErrorKind) : ofJson? kind.toJson = some kind :=
  enum?_str (by decide) (by cases kind <;> decide)

theorem Report.ofJson?_toJson (r : Report) : ofJson? r.toJson = some r := by
  simp [ofJson?, toJson, List.lookup_append, List.lookup_cons, ErrorKind.ofJson?_toJson]

/-! ## Tokens and expressions -/

namespace Lexeme

def floats : Lexeme Float → List Float
  | number value => [value]
  | identifier _ | operator _ | leftParen | rightParen | comma => []

theorem ofJson?_toJson {kind : Lexeme Float} (h : ∀ x ∈ kind.floats, x.isFinite = true) :
    ofJson? kind.toJson = some kind := by
  cases kind with
  | number value =>
    have hvalue : value.isFinite = true := h value List.mem_cons_self
    simp [ofJson?, toJson, variant?, finite?_eq_some hvalue]
  | identifier name => rfl
  | operator symbol => simp [ofJson?, toJson, variant?]
  | leftParen => rfl
  | rightParen => rfl
  | comma => rfl

end Lexeme

theorem Token.ofJson?_toJson {t : Token Float} (h : ∀ x ∈ t.kind.floats, x.isFinite = true) :
    ofJson? t.toJson = some t := by
  simp [ofJson?, toJson, List.lookup_cons, Lexeme.ofJson?_toJson h]

theorem BinaryOperator.ofJson?_toJson (op : BinaryOperator) : ofJson? op.toJson = some op :=
  enum?_str (by decide) (by cases op <;> decide)

theorem UnaryOperator.ofJson?_toJson (op : UnaryOperator) : ofJson? op.toJson = some op := by
  cases op with
  | neg => rfl
  | factorial offset => simp [ofJson?, toJson, variant?]

namespace Expr

mutual

/-- The literals of an expression. -/
def floats : Expr Float → List Float
  | literal value => [value]
  | variableRef _ _ => []
  | unary _ operand => floats operand
  | binary _ left right => floats left ++ floats right
  | call _ args _ => floatsOfEach args

def floatsOfEach : List (Expr Float) → List Float
  | [] => []
  | e :: rest => floats e ++ floatsOfEach rest

end

theorem floats_subset_floatsOfEach {args : List (Expr Float)} {e : Expr Float} (h : e ∈ args) :
    e.floats ⊆ floatsOfEach args := by
  induction args with
  | nil => cases h
  | cons e' rest ih =>
    obtain rfl | hrest := List.mem_cons.mp h
    · exact List.subset_append_left _ _
    · exact List.subset_append_of_subset_right _ (ih hrest)

/-- Arguments that come back one by one come back as a list. -/
theorem mapM_ofJsonEach_toJsonEach {args : List (Expr Float)}
    (h : ∀ e ∈ args, ofJson? e.toJson = some e) :
    (ofJsonEach (toJsonEach args)).mapM id = some args := by
  induction args with
  | nil => rfl
  | cons e rest ih =>
    obtain ⟨he, hrest⟩ := List.forall_mem_cons.mp h
    rw [toJsonEach, ofJsonEach, List.mapM_cons, ih hrest, he]
    rfl

theorem ofJson?_toJson {e : Expr Float} (h : ∀ x ∈ e.floats, x.isFinite = true) :
    ofJson? e.toJson = some e := by
  induction e using Expr.induction with
  | literal value =>
    have hvalue : value.isFinite = true := h value List.mem_cons_self
    simp [toJson, ofJson?, tagged?, finite?_eq_some hvalue]
  | variableRef name offset => simp [toJson, ofJson?, tagged?, List.lookup_cons]
  | unary op operand ih =>
    simp [toJson, ofJson?, itemsOf, ofJsonEach, tagged?, UnaryOperator.ofJson?_toJson, ih h]
  | binary op left right ihLeft ihRight =>
    obtain ⟨hleft, hright⟩ := List.forall_mem_append.mp h
    simp [toJson, ofJson?, itemsOf, ofJsonEach, tagged?, BinaryOperator.ofJson?_toJson, ihLeft hleft,
      ihRight hright]
  | call name args offset ih =>
    have hargs : ∀ e ∈ args, ofJson? e.toJson = some e := by
      intro e he
      apply ih e he
      intro x hx
      exact h x (floats_subset_floatsOfEach he hx)
    simp [toJson, ofJson?, argsOf, argsIn, tagged?, List.lookup_cons, mapM_ofJsonEach_toJsonEach hargs]

end Expr

/-! ## Problems and loans -/

theorem Frequency.ofJson?_toJson (f : Frequency) : ofJson? f.toJson = some f :=
  enum?_str (by decide) (by cases f <;> decide)

theorem Quantity.ofJson?_toJson (q : Quantity) : ofJson? q.toJson = some q :=
  enum?_str (by decide) (by cases q <;> decide)

theorem Timing.ofJson?_toJson (t : Timing) : ofJson? t.toJson = some t :=
  enum?_str (by decide) (by cases t <;> decide)

namespace Problem

def floats (p : Problem Float) : List Float :=
  p.presentValue.toList ++ p.futureValue.toList ++ p.payment.toList ++ p.ratePerPeriod.toList ++
    p.numberOfPeriods.toList ++ [p.periodsPerYear]

theorem ofJson?_toJson {p : Problem Float} (h : ∀ x ∈ p.floats, x.isFinite = true) :
    ofJson? p.toJson = some p := by
  simp only [floats, List.forall_mem_append, List.forall_mem_singleton] at h
  obtain ⟨⟨⟨⟨⟨hpresent, hfuture⟩, hpayment⟩, hrate⟩, hperiods⟩, hyear⟩ := h
  simp [ofJson?, toJson, List.lookup_cons, bind_finite?_eq_self hpresent, bind_finite?_eq_self hfuture,
    bind_finite?_eq_self hpayment, bind_finite?_eq_self hrate, bind_finite?_eq_self hperiods,
    finite?_eq_some hyear, Quantity.ofJson?_toJson, Timing.ofJson?_toJson]

end Problem

namespace Solution

def floats (s : Solution Float) : List Float :=
  [s.value, s.presentValue, s.futureValue, s.payment, s.ratePerPeriod, s.numberOfPeriods,
    s.periodsPerYear]

theorem ofJson?_toJson {s : Solution Float} (h : ∀ x ∈ s.floats, x.isFinite = true) :
    ofJson? s.toJson = some s := by
  simp only [floats, List.forall_mem_cons] at h
  simp [ofJson?, toJson, List.lookup_cons, finite?_eq_some, h, Quantity.ofJson?_toJson]

end Solution

theorem SolverConfig.ofJson?_toJson {c : SolverConfig Float}
    (h : ∀ x ∈ [c.initialGuess, c.tolerance], x.isFinite = true) : ofJson? c.toJson = some c := by
  simp only [List.forall_mem_cons] at h
  simp [ofJson?, toJson, List.lookup_cons, finite?_eq_some, h]

namespace Loan

def floats (loan : Loan Float) : List Float :=
  [loan.principal, loan.annualRate, loan.termYears, loan.downPayment, loan.extraPayment] ++
    loan.scheduledPayment.toList

theorem ofJson?_toJson {loan : Loan Float} (h : ∀ x ∈ loan.floats, x.isFinite = true) :
    ofJson? loan.toJson = some loan := by
  obtain ⟨hamounts, hscheduled⟩ := List.forall_mem_append.mp h
  simp only [List.forall_mem_cons] at hamounts
  simp [ofJson?, toJson, List.lookup_cons, finite?_eq_some, hamounts,
    bind_finite?_eq_self hscheduled, Frequency.ofJson?_toJson]

end Loan

namespace ScheduleRow

def floats (row : ScheduleRow Float) : List Float :=
  [row.payment, row.principal, row.interest, row.balance]

theorem ofJson?_toJson {row : ScheduleRow Float} (h : ∀ x ∈ row.floats, x.isFinite = true) :
    ofJson? row.toJson = some row := by
  simp only [floats, List.forall_mem_cons] at h
  simp [ofJson?, toJson, List.lookup_cons, finite?_eq_some, h]

end ScheduleRow

namespace Schedule

def floats (s : Schedule Float) : List Float :=
  s.rows.flatMap ScheduleRow.floats ++ [s.basePayment, s.totalInterest, s.totalPayments, s.interestSaved]

theorem ofJson?_toJson {s : Schedule Float} (h : ∀ x ∈ s.floats, x.isFinite = true) :
    ofJson? s.toJson = some s := by
  obtain ⟨hrows, htotals⟩ := List.forall_mem_append.mp h
  have hlist : list? ScheduleRow.ofJson? (.arr (s.rows.map ScheduleRow.toJson)) = some s.rows := by
    apply list?_map
    intro row hrow
    apply ScheduleRow.ofJson?_toJson
    intro x hx
    exact hrows x (List.mem_flatMap.mpr ⟨row, hrow, hx⟩)
  simp only [List.forall_mem_cons] at htotals
  simp [ofJson?, toJson, List.lookup_cons, finite?_eq_some, htotals, hlist]

end Schedule

theorem ScheduleConfig.ofJson?_toJson {c : ScheduleConfig Float} (h : c.epsilon.isFinite = true) :
    ofJson? c.toJson = some c := by
  simp [ofJson?, toJson, finite?_eq_some h]

/-! ## All stored data -/

/-- The types of data that are stored. -/
inductive Stored : Type → Type where
  | variable : Stored (Variable Float)
  | line : Stored Line
  | report : Stored Report
  | errorKind : Stored ErrorKind
  | token : Stored (Token Float)
  | lexeme : Stored (Lexeme Float)
  | expr : Stored (Expr Float)
  | unaryOperator : Stored UnaryOperator
  | binaryOperator : Stored BinaryOperator
  | evaluated : Stored Evaluated
  | suggestion : Stored Suggestion
  | constant : Stored (Constant Float)
  | problem : Stored (Problem Float)
  | quantity : Stored Quantity
  | timing : Stored Timing
  | solution : Stored (Solution Float)
  | solverConfig : Stored (SolverConfig Float)
  | loan : Stored (Loan Float)
  | frequency : Stored Frequency
  | scheduleRow : Stored (ScheduleRow Float)
  | schedule : Stored (Schedule Float)
  | scheduleConfig : Stored (ScheduleConfig Float)

namespace Stored

variable {β : Type}

def write : Stored β → β → Json
  | .variable => Variable.toJson
  | line => Line.toJson
  | report => Report.toJson
  | errorKind => ErrorKind.toJson
  | token => Token.toJson
  | lexeme => Lexeme.toJson
  | expr => Expr.toJson
  | unaryOperator => UnaryOperator.toJson
  | binaryOperator => BinaryOperator.toJson
  | evaluated => Evaluated.toJson
  | suggestion => Suggestion.toJson
  | constant => Constant.toJson
  | problem => Problem.toJson
  | quantity => Quantity.toJson
  | timing => Timing.toJson
  | solution => Solution.toJson
  | solverConfig => SolverConfig.toJson
  | loan => Loan.toJson
  | frequency => Frequency.toJson
  | scheduleRow => ScheduleRow.toJson
  | schedule => Schedule.toJson
  | scheduleConfig => ScheduleConfig.toJson

def read? : Stored β → Json → Option β
  | .variable => Variable.ofJson?
  | line => Line.ofJson?
  | report => Report.ofJson?
  | errorKind => ErrorKind.ofJson?
  | token => Token.ofJson?
  | lexeme => Lexeme.ofJson?
  | expr => Expr.ofJson?
  | unaryOperator => UnaryOperator.ofJson?
  | binaryOperator => BinaryOperator.ofJson?
  | evaluated => Evaluated.ofJson?
  | suggestion => Suggestion.ofJson?
  | constant => Constant.ofJson?
  | problem => Problem.ofJson?
  | quantity => Quantity.ofJson?
  | timing => Timing.ofJson?
  | solution => Solution.ofJson?
  | solverConfig => SolverConfig.ofJson?
  | loan => Loan.ofJson?
  | frequency => Frequency.ofJson?
  | scheduleRow => ScheduleRow.ofJson?
  | schedule => Schedule.ofJson?
  | scheduleConfig => ScheduleConfig.ofJson?

/-- All doubles in a value. -/
def floats : Stored β → β → List Float
  | .variable, v => [v.value]
  | line, l => l.value.toList
  | token, t => t.kind.floats
  | lexeme, kind => kind.floats
  | expr, e => e.floats
  | evaluated, e => [e.value]
  | constant, c => [c.value]
  | problem, p => p.floats
  | solution, s => s.floats
  | solverConfig, c => [c.initialGuess, c.tolerance]
  | loan, l => l.floats
  | scheduleRow, row => row.floats
  | schedule, s => s.floats
  | scheduleConfig, c => [c.epsilon]
  | report, _ | errorKind, _ | unaryOperator, _ | binaryOperator, _ | suggestion, _ | quantity, _
  | timing, _ | frequency, _ => []

/-- What is stored comes back as it was, if all doubles in it are finite. -/
theorem read?_write (stored : Stored β) (value : β)
    (h : ∀ x ∈ stored.floats value, x.isFinite = true) :
    stored.read? (stored.write value) = some value := by
  cases stored with
  | «variable» =>
    have hvalue : value.value.isFinite = true := h _ List.mem_cons_self
    refine value.ofJson?_toJson.trans ?_
    rw [finite?_eq_some hvalue]
    rfl
  | line =>
    refine value.ofJson?_toJson.trans ?_
    rw [bind_finite?_eq_self h]
  | report => exact value.ofJson?_toJson
  | errorKind => exact value.ofJson?_toJson
  | token => exact Token.ofJson?_toJson h
  | lexeme => exact Lexeme.ofJson?_toJson h
  | expr => exact Expr.ofJson?_toJson h
  | unaryOperator => exact value.ofJson?_toJson
  | binaryOperator => exact value.ofJson?_toJson
  | evaluated => exact Evaluated.ofJson?_toJson (h _ List.mem_cons_self)
  | suggestion => exact value.ofJson?_toJson
  | constant => exact Constant.ofJson?_toJson (h _ List.mem_cons_self)
  | problem => exact Problem.ofJson?_toJson h
  | quantity => exact value.ofJson?_toJson
  | timing => exact value.ofJson?_toJson
  | solution => exact Solution.ofJson?_toJson h
  | solverConfig => exact SolverConfig.ofJson?_toJson h
  | loan => exact Loan.ofJson?_toJson h
  | frequency => exact value.ofJson?_toJson
  | scheduleRow => exact ScheduleRow.ofJson?_toJson h
  | schedule => exact Schedule.ofJson?_toJson h
  | scheduleConfig => exact ScheduleConfig.ofJson?_toJson (h _ List.mem_cons_self)

/-- The tree of `max(2.5!, x^-0.1)`, with all its offsets. -/
def sampleTree : Expr Float :=
  .call "max" [.unary (.factorial 7) (.literal 2.5),
    .binary .pow (.variableRef "x" 10) (.unary .neg (.literal 0.1))] 0

theorem read?_write_tree :
    2.5 ∈ expr.floats sampleTree ∧ (∀ x ∈ expr.floats sampleTree, x.isFinite = true) ∧
      expr.read? (expr.write sampleTree) = some sampleTree := by
  have h : ∀ x ∈ expr.floats sampleTree, x.isFinite = true := by
    have hhalf : (2.5 : Float).isFinite = true := by decide +kernel
    have htenth : (0.1 : Float).isFinite = true := by decide +kernel
    exact List.forall_mem_cons.mpr ⟨hhalf, List.forall_mem_singleton.mpr htenth⟩
  exact ⟨List.mem_cons_self, h, expr.read?_write sampleTree h⟩

end Stored

end Reckoner
