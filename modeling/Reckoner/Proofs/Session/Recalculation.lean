import Reckoner.Proofs.Meaning.FreeNames
import Reckoner.Proofs.Session

/-!
# Recalculating a document

The lines of a document run one after another. A second run starts from what the first one left, so
a name may have another value than it had when the first run came to the same line. It makes no
difference as long as no line reads such a name before the document assigns it: the two runs agree
on every other name, and each line that assigns one of these names settles it.
-/

namespace Reckoner

/-- The variable that a line has set: the one it assigns to, unless it shows an error. -/
def Line.sets? (line : Line) : Option String := if line.isError then none else line.assignedTo

/-- The variables that some lines have set. -/
def Line.setBy (lines : List Line) : List String := lines.filterMap Line.sets?

theorem Line.mem_setBy_cons {line : Line} {lines : List Line} {name : String} :
    name ∈ setBy (line :: lines) ↔ line.sets? = some name ∨ name ∈ setBy lines := by
  simp only [setBy, List.mem_filterMap, List.mem_cons, or_and_right, exists_or, exists_eq_left]

namespace Calculator

/-- The source of the expression of a line: what it assigns, or all of it. -/
def lineSource (text : String) : String := ((splitAssignment? text).map Prod.snd).getD text

/-- The names that the expression of a source takes from outside; there are none where it is no
expression. -/
def sourceNames (registry : Registry Float) (source : String) : List String :=
  (Expr.parse source).toOption.elim [] (Expr.freeNames registry)

/-- The names that a line reads. -/
def lineNames (registry : Registry Float) (text : String) : List String :=
  sourceNames registry (lineSource text)

/-- Evaluates the lines of a document one after another. -/
def evaluateLines (c : Calculator) : List String → List Line × Calculator
  | [] => ([], c)
  | text :: rest =>
    let first := c.evaluateLine text
    let more := first.2.evaluateLines rest
    (first.1 :: more.1, more.2)

/-- The sessions differ at most in the variables of some names. -/
structure AgreeExcept (names : String → Prop) (c d : Calculator) : Prop where
  eq_withStore : d = { c with store := d.store }
  builtins_eq : d.store.builtins = c.store.builtins
  find?_eq : ∀ name, ¬ names name → d.store.find? name = c.store.find? name

variable {c d : Calculator} {names : String → Prop}

theorem AgreeExcept.imp {names' : String → Prop} (h : AgreeExcept names c d)
    (himp : ∀ name, names name → names' name) : AgreeExcept names' c d :=
  ⟨h.eq_withStore, h.builtins_eq, fun name hname => h.find?_eq name fun hin => hname (himp name hin)⟩

theorem AgreeExcept.registry_eq (h : AgreeExcept names c d) : d.registry = c.registry := by
  rw [h.eq_withStore]

theorem AgreeExcept.value_eq (h : AgreeExcept names c d) {name : String} (hname : ¬ names name) :
    d.store.value name = c.store.value name := by
  rw [Store.value, Store.value, Store.value?, Store.value?, h.find?_eq name hname, h.builtins_eq]

theorem AgreeExcept.eq (h : AgreeExcept (fun _ => False) c d) : d = c := by
  have hstore : d.store = c.store := Store.eq_of_find?_eq h.builtins_eq fun name => h.find?_eq name id
  rw [h.eq_withStore, hstore]

/-- Writing the same variable on both sides settles its name. -/
theorem AgreeExcept.replaces (h : AgreeExcept names c d) {v : Variable Float}
    {store store' : Store Float} (hc : c.store.Replaces store v) (hd : d.store.Replaces store' v) :
    AgreeExcept (fun name => names name ∧ v.name ≠ name) { c with store := store }
      { d with store := store' } := by
  refine ⟨by rw [h.eq_withStore], ?_, fun name hname => ?_⟩
  · rw [hc.builtins_eq, hd.builtins_eq, h.builtins_eq]
  · rw [hc.find?_eq, hd.find?_eq]
    split
    · rfl
    · rename_i hne
      exact h.find?_eq name fun hin => hname ⟨hin, Ne.symm hne⟩

/-! ## One line -/

theorem AgreeExcept.evaluate_eq (h : AgreeExcept names c d) {source : String}
    (hreads : ∀ name ∈ sourceNames c.registry source, ¬ names name) :
    d.evaluate source = c.evaluate source := by
  unfold evaluate
  cases hparse : Expr.parse source with
  | error failure => rfl
  | ok e =>
    rw [sourceNames, hparse] at hreads
    have hvalue : Expr.evalIn d.registry d.store e = Expr.evalIn c.registry c.store e := by
      rw [h.registry_eq]
      exact Expr.evalIn_congr fun name hname => h.value_eq (hreads name hname)
    rw [h.registry_eq] at hvalue ⊢
    simp only [bind, Except.bind, hvalue]

theorem assign_answer (c : Calculator) (name source : String) : (c.assign name source).1 =
    if isName name then c.evaluate source else (Cause.invalidInput (.notAName name)).throw := by
  obtain ⟨hname, h⟩ | ⟨failure, hname, hanswer, h⟩ | ⟨result, store, hname, hanswer, -, h⟩ :=
    c.assign_cases name source
  · rw [h, if_neg (fun hsome => hname (isName_iff.mp hsome))]
  · rw [h, if_pos (isName_iff.mpr hname), hanswer]
  · rw [h, if_pos (isName_iff.mpr hname), hanswer]

theorem sets?_lineOf (line markup : String) (assigned : Option String)
    (outcome : Answer Float Evaluated) :
    (lineOf line markup assigned outcome).sets? = outcome.toOption.bind fun _ => assigned := by
  cases outcome <;> rfl

theorem AgreeExcept.lineMarkup_eq (h : AgreeExcept names c d) (text : String)
    (assigned : Option String) (source : String) :
    d.lineMarkup text assigned source = c.lineMarkup text assigned source := by
  unfold lineMarkup
  rw [h.registry_eq]

/-- A definition that reads none of the names has the same outcome on both sides and settles the
name that it defines. -/
theorem AgreeExcept.assign (h : AgreeExcept names c d) (name : String) {source : String}
    (hreads : ∀ other ∈ sourceNames c.registry source, ¬ names other) :
    (d.assign name source).1 = (c.assign name source).1 ∧
      AgreeExcept (fun other => names other ∧
          ((c.assign name source).1.toOption.bind fun _ => some name) ≠ some other)
        (c.assign name source).2 (d.assign name source).2 := by
  have hanswer : (d.assign name source).1 = (c.assign name source).1 := by
    rw [assign_answer, assign_answer, h.evaluate_eq hreads]
  have hc := c.assign_defines name source
  have hd := d.assign_defines name source
  refine ⟨hanswer, ?_⟩
  cases hout : (c.assign name source).1 with
  | error failure =>
    rw [hc.unchanged failure hout, hd.unchanged failure (hanswer.trans hout)]
    exact h.imp fun other hother => ⟨hother, fun heq => by cases heq⟩
  | ok result =>
    obtain ⟨hafter, hreplaces⟩ := hc.replaces result hout
    obtain ⟨hafter', hreplaces'⟩ := hd.replaces result (hanswer.trans hout)
    rw [hafter, hafter']
    exact (h.replaces hreplaces hreplaces').imp fun other hother =>
      ⟨hother.1, fun heq => hother.2 (Option.some.inj heq)⟩

/-- The step lemma: a line that reads none of the names is shown the same on both sides, and it
settles the name that it sets. -/
theorem AgreeExcept.evaluateLine (h : AgreeExcept names c d) {text : String}
    (hreads : ∀ name ∈ lineNames c.registry text, ¬ names name) :
    (d.evaluateLine text).1 = (c.evaluateLine text).1 ∧
      AgreeExcept (fun name => names name ∧ (c.evaluateLine text).1.sets? ≠ some name)
        (c.evaluateLine text).2 (d.evaluateLine text).2 := by
  unfold Calculator.evaluateLine
  unfold lineNames lineSource at hreads
  cases hsplit : splitAssignment? text with
  | none =>
    rw [hsplit, Option.map_none, Option.getD_none] at hreads
    dsimp only
    rw [h.lineMarkup_eq, h.evaluate_eq hreads, sets?_lineOf, Option.bind_fun_none]
    exact ⟨rfl, h.imp fun name hname => ⟨hname, fun heq => by cases heq⟩⟩
  | some parts =>
    obtain ⟨name, source⟩ := parts
    rw [hsplit, Option.map_some, Option.getD_some] at hreads
    obtain ⟨hanswer, hafter⟩ := h.assign name hreads
    dsimp only
    rw [h.lineMarkup_eq, hanswer, sets?_lineOf]
    exact ⟨rfl, hafter⟩

/-! ## All lines -/

theorem AgreeExcept.trans {e : Calculator} {names' : String → Prop} (h : AgreeExcept names c d)
    (h' : AgreeExcept names' d e) : AgreeExcept (fun name => names name ∨ names' name) c e := by
  refine ⟨?_, h'.builtins_eq.trans h.builtins_eq, fun name hname => ?_⟩
  · rw [h'.eq_withStore, h.eq_withStore]
  · rw [not_or] at hname
    exact (h'.find?_eq name hname.2).trans (h.find?_eq name hname.1)

/-- A definition changes no other name. -/
theorem agreeExcept_assign (c : Calculator) (name source : String) :
    AgreeExcept (fun other => ((c.assign name source).1.toOption.bind fun _ => some name) = some other)
      c (c.assign name source).2 := by
  have hc := c.assign_defines name source
  cases hout : (c.assign name source).1 with
  | error failure =>
    rw [hc.unchanged failure hout]
    exact ⟨rfl, rfl, fun _ _ => rfl⟩
  | ok result =>
    obtain ⟨hafter, hreplaces⟩ := hc.replaces result hout
    refine ⟨hafter, hreplaces.builtins_eq, fun other hother => ?_⟩
    rw [hreplaces.find?_eq, if_neg]
    rintro rfl
    exact hother rfl

theorem agreeExcept_evaluateLine (c : Calculator) (text : String) :
    AgreeExcept (fun name => (c.evaluateLine text).1.sets? = some name) c
      (c.evaluateLine text).2 := by
  unfold Calculator.evaluateLine
  cases splitAssignment? text with
  | none => exact ⟨rfl, rfl, fun _ _ => rfl⟩
  | some parts =>
    obtain ⟨name, source⟩ := parts
    dsimp only
    rw [sets?_lineOf]
    exact c.agreeExcept_assign name source

/-- A run changes no name but those that its lines set. -/
theorem agreeExcept_evaluateLines (c : Calculator) (lines : List String) :
    AgreeExcept (· ∈ Line.setBy (c.evaluateLines lines).1) c (c.evaluateLines lines).2 := by
  induction lines generalizing c with
  | nil => exact ⟨rfl, rfl, fun _ _ => rfl⟩
  | cons text rest ih =>
    have hall := (c.agreeExcept_evaluateLine text).trans (ih (c.evaluateLine text).2)
    exact hall.imp fun name hname => Line.mem_setBy_cons.mpr hname

/-- The run lemma: where no line reads one of the names before a line has set it, all lines are shown
the same on both sides, and afterwards the sessions agree also on the names that have been set. -/
theorem AgreeExcept.evaluateLines (h : AgreeExcept names c d) {lines : List String}
    (hreads : ∀ i (hi : i < lines.length), ∀ name ∈ lineNames c.registry lines[i],
      names name → name ∈ Line.setBy (c.evaluateLines (lines.take i)).1) :
    (d.evaluateLines lines).1 = (c.evaluateLines lines).1 ∧
      AgreeExcept (fun name => names name ∧ name ∉ Line.setBy (c.evaluateLines lines).1)
        (c.evaluateLines lines).2 (d.evaluateLines lines).2 := by
  induction lines generalizing c d names with
  | nil => exact ⟨rfl, h.imp fun name hname => ⟨hname, List.not_mem_nil⟩⟩
  | cons text rest ih =>
    have hfirst : ∀ name ∈ lineNames c.registry text, ¬ names name := fun name hname hin =>
      List.not_mem_nil (hreads 0 (Nat.zero_lt_succ _) name hname hin)
    obtain ⟨hline, hafter⟩ := h.evaluateLine hfirst
    have hrest : ∀ i (hi : i < rest.length),
        ∀ name ∈ lineNames (c.evaluateLine text).2.registry rest[i],
          names name ∧ (c.evaluateLine text).1.sets? ≠ some name →
            name ∈ Line.setBy ((c.evaluateLine text).2.evaluateLines (rest.take i)).1 := by
      intro i hi name hname hin
      rw [(c.agreeExcept_evaluateLine text).registry_eq] at hname
      have hset := hreads (i + 1) (Nat.succ_lt_succ hi) name hname hin.1
      rw [List.take_succ_cons] at hset
      exact (Line.mem_setBy_cons.mp hset).resolve_left hin.2
    obtain ⟨hlines, hagree⟩ := ih hafter hrest
    constructor
    · rw [Calculator.evaluateLines, Calculator.evaluateLines, hline, hlines]
    · refine hagree.imp fun name hname => ⟨hname.1.1, fun hset => ?_⟩
      exact (Line.mem_setBy_cons.mp hset).elim hname.1.2 hname.2

/-- Recalculating a document that reads no variable of its own before it has set it shows the same
lines again and changes nothing in the session. -/
theorem evaluateLines_again (c : Calculator) (lines : List String)
    (h : ∀ i (hi : i < lines.length), ∀ name ∈ lineNames c.registry lines[i],
      name ∈ Line.setBy (c.evaluateLines lines).1 →
        name ∈ Line.setBy (c.evaluateLines (lines.take i)).1) :
    ((c.evaluateLines lines).2.evaluateLines lines).1 = (c.evaluateLines lines).1 ∧
      ((c.evaluateLines lines).2.evaluateLines lines).2 = (c.evaluateLines lines).2 := by
  obtain ⟨hlines, hagree⟩ := (c.agreeExcept_evaluateLines lines).evaluateLines h
  -- What the second run could still differ in are names that both runs have set.
  have hnone : AgreeExcept (fun _ => False) (c.evaluateLines lines).2
      ((c.evaluateLines lines).2.evaluateLines lines).2 :=
    hagree.imp fun name hname => hname.2 hname.1
  exact ⟨hlines, hnone.eq⟩

/-- A document that reads a variable of its own before it has set it may show something else. -/
example :
    ((standard.evaluateLines ["y = x", "x = 1"]).2.evaluateLines ["y = x", "x = 1"]).1.map Line.sets? ≠
      (standard.evaluateLines ["y = x", "x = 1"]).1.map Line.sets? := by decide +kernel

/-- A document with a variable that is updated, a line that fails and a constant that is hidden. -/
def hidingDocument : List String := ["x = 1", "x = x + 1", "y = x / q", "pi = 3 * x", "pi - x"]

theorem evaluateLines_again_hidingDocument :
    (∀ i (hi : i < hidingDocument.length),
      ∀ name ∈ lineNames standard.registry hidingDocument[i],
        name ∈ Line.setBy (standard.evaluateLines hidingDocument).1 →
          name ∈ Line.setBy (standard.evaluateLines (hidingDocument.take i)).1) ∧
    ((standard.evaluateLines hidingDocument).2.evaluateLines hidingDocument).1 =
      (standard.evaluateLines hidingDocument).1 ∧
    ((standard.evaluateLines hidingDocument).2.evaluateLines hidingDocument).2 =
      (standard.evaluateLines hidingDocument).2 := by
  have hsettled : ∀ i (hi : i < hidingDocument.length),
      ∀ name ∈ lineNames standard.registry hidingDocument[i],
        name ∈ Line.setBy (standard.evaluateLines hidingDocument).1 →
          name ∈ Line.setBy (standard.evaluateLines (hidingDocument.take i)).1 := by
    decide +kernel
  exact ⟨hsettled, standard.evaluateLines_again hidingDocument hsettled⟩

end Calculator

end Reckoner
