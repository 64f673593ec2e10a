import Reckoner.Calculator
import Reckoner.Proofs.Store

/-!
# Definitions and lines

A session changes by definitions alone, and one that fails changes nothing. A line is a definition
when a single name stands before its first equals sign, and an expression otherwise. Its markup never
is the line itself unless its expression is none: display markup starts with a dollar sign, with
which neither a name nor an expression starts.
-/

namespace Reckoner

/-- The text is read as one name and nothing else. -/
def IsSingleName (text : String) : Prop :=
  ∃ name offset, tokenize text = .ok [⟨.identifier name, offset⟩]

theorem isName_iff {text : String} : isName text = true ↔ IsSingleName text := by
  unfold isName
  split
  · rename_i name offset h
    exact ⟨fun _ => ⟨name, offset, h⟩, fun _ => rfl⟩
  · rename_i hother
    constructor
    · exact nofun
    · rintro ⟨name, offset, h⟩
      exact absurd h (hother name offset)

theorem isName_eq_false_iff {text : String} : isName text = false ↔ ¬ IsSingleName text := by
  rw [← isName_iff, Bool.not_eq_true]

theorem not_isSingleName_empty : ¬ IsSingleName "" := by
  rintro ⟨name, offset, h⟩
  simp [tokenize, tokenizeFrom] at h

/-- No token starts with a dollar sign. -/
theorem tokenize_dollar {text : String} {rest : List Char} (h : text.toList = '$' :: rest) :
    tokenize text = .error ((Cause.malformed (.unexpectedCharacter '$')).at 0) := by
  have hblank : Text.isBlank '$' = false := by decide +kernel
  have hletter : Lexeme.isNameStart '$' = false := by decide +kernel
  unfold tokenize
  rw [h, tokenizeFrom]
  simp [hblank, hletter, Lexeme.read, Lexeme.startsNumeral, Lexeme.operatorSymbol?]

theorem not_isSingleName_dollar {text : String} {rest : List Char}
    (h : text.toList = '$' :: rest) : ¬ IsSingleName text := by
  rintro ⟨name, offset, hname⟩
  rw [tokenize_dollar h] at hname
  cases hname

theorem parse_dollar {text : String} {rest : List Char} (h : text.toList = '$' :: rest) :
    ∃ failure, Expr.parse text = .error failure := by
  unfold Expr.parse
  rw [tokenize_dollar h]
  exact ⟨_, rfl⟩

/-- The line assigns the source after its first equals sign to the single name before it. -/
def Assigns (line name source : String) : Prop :=
  ∃ before, line.toList = before ++ '=' :: source.toList ∧ '=' ∉ before ∧
    name = Text.trim (String.ofList before) ∧ IsSingleName name

theorem Assigns.not_dollar {line name source : String} (h : Assigns line name source)
    {rest : List Char} : line.toList ≠ '$' :: rest := by
  obtain ⟨before, hline, -, rfl, hname⟩ := h
  intro hdollar
  rw [hdollar] at hline
  cases before with
  | nil => cases hline
  | cons c before =>
    cases hline
    have hblank : Text.isBlank '$' = false := by decide +kernel
    have htrim := Text.trimChars_cons hblank before
    refine not_isSingleName_dollar (Eq.trans ?_ htrim) hname
    simp only [Text.trim, String.toList_ofList]

/-- A line shows the outcome of an evaluation: its value or its error, and not the other. -/
inductive Line.Shows : Line → Answer Float Evaluated → Prop where
  | value {line : Line} {result : Evaluated} (value_eq : line.value = some result.value)
      (error_eq : line.error = none) : Shows line (.ok result)
  | error {line : Line} {failure : Failure Float} (value_eq : line.value = none)
      (error_eq : line.error = some failure.report.display) : Shows line (.error failure)

/-- A line without error shows a value. -/
theorem Line.Shows.exists_eq_ok {line : Line} {outcome : Answer Float Evaluated}
    (h : line.Shows outcome) (herror : line.error = none) :
    ∃ result, outcome = .ok result ∧ line.value = some result.value := by
  cases h with
  | value value_eq error_eq => exact ⟨_, rfl, value_eq⟩
  | error value_eq error_eq =>
    rw [herror] at error_eq
    cases error_eq

theorem Markup.display_ne {line : String} (h : ∀ rest, line.toList ≠ '$' :: rest) (inner : String) :
    Markup.display inner ≠ line := by
  rintro rfl
  refine h ('$' :: inner.toList ++ ['$', '$']) ?_
  simp [Markup.display, Markup.displayDelimiter]

namespace Calculator

variable (c : Calculator)

theorem splitAssignment?_eq_some_iff {line name source : String} :
    splitAssignment? line = some (name, source) ↔ Assigns line name source := by
  unfold splitAssignment?
  constructor
  · intro h
    split at h
    · cases h
    · rename_i before after hsplit
      obtain ⟨hline, hmem⟩ := Text.eq_append_of_splitFirst? hsplit
      simp only [Option.ite_none_right_eq_some] at h
      obtain ⟨hname, heq⟩ := h
      cases heq
      refine ⟨before, by rw [hline, String.toList_ofList], hmem, ?_, isName_iff.mp hname⟩
      rw [Text.trim, String.toList_ofList]
  · rintro ⟨before, hline, hmem, rfl, hname⟩
    rw [hline, Text.splitFirst?_append hmem]
    have hname := isName_iff.mpr hname
    rw [Text.trim, String.toList_ofList] at hname ⊢
    simp [hname]

/-- What a definition does: everything that can go wrong comes before the only change. -/
theorem assign_cases (name source : String) :
    (¬ IsSingleName name ∧
      c.assign name source = ((Cause.invalidInput (.notAName name)).throw, c)) ∨
    (∃ failure, IsSingleName name ∧ c.evaluate source = .error failure ∧
      c.assign name source = (.error failure, c)) ∨
    ∃ result store, IsSingleName name ∧ c.evaluate source = .ok result ∧
      c.store.Replaces store
        ⟨name, result.value, some (Text.trim source), some result.markup⟩ ∧
      c.assign name source = (.ok result, { c with store := store }) := by
  unfold assign
  cases hname : isName name with
  | false => exact .inl ⟨isName_eq_false_iff.mp hname, rfl⟩
  | true =>
    have hsingle := isName_iff.mp hname
    cases hanswer : c.evaluate source with
    | error failure => exact .inr (.inl ⟨failure, hsingle, rfl, rfl⟩)
    | ok result =>
      have hnonempty : name.isEmpty = false := by
        rw [← Bool.not_eq_true, String.isEmpty_iff]
        rintro rfl
        exact not_isSingleName_empty hsingle
      obtain ⟨store, hset, hreplaces⟩ := c.store.exists_set_eq_ok
        (v := ⟨name, result.value, some (Text.trim source), some result.markup⟩) hnonempty
      refine .inr (.inr ⟨result, store, hsingle, rfl, hreplaces, ?_⟩)
      simp only [Bool.not_true, Bool.false_eq_true, if_false]
      rw [hset]

/-- A definition answers what its source evaluates to and writes that, under a name, or changes
nothing. -/
structure Defines (name source : String) (answer : Answer Float Evaluated) (after : Calculator) :
    Prop where
  fails_iff : (∃ failure, answer = .error failure) ↔
    ¬ IsSingleName name ∨ ∃ failure, c.evaluate source = .error failure
  unchanged : ∀ failure, answer = .error failure → after = c
  evaluates : ∀ result, answer = .ok result → c.evaluate source = .ok result
  replaces : ∀ result, answer = .ok result → after = { c with store := after.store } ∧
    c.store.Replaces after.store
      ⟨name, result.value, some (Text.trim source), some result.markup⟩

theorem assign_defines (name source : String) :
    c.Defines name source (c.assign name source).1 (c.assign name source).2 := by
  obtain ⟨hname, h⟩ | ⟨failure, hname, hanswer, h⟩ | ⟨result, store, hname, hanswer, hreplaces, h⟩ :=
    c.assign_cases name source
  · rw [h]
    exact ⟨⟨fun _ => .inl hname, fun _ => ⟨_, rfl⟩⟩, fun _ _ => rfl, nofun, nofun⟩
  · rw [h]
    exact ⟨⟨fun _ => .inr ⟨failure, hanswer⟩, fun _ => ⟨failure, rfl⟩⟩, fun _ _ => rfl, nofun, nofun⟩
  · rw [h]
    refine ⟨⟨nofun, ?_⟩, nofun, ?_, ?_⟩
    · rintro (hother | ⟨failure, hother⟩)
      · exact absurd hname hother
      · rw [hanswer] at hother
        cases hother
    · rintro _ ⟨⟩
      exact hanswer
    · rintro _ ⟨⟩
      exact ⟨rfl, hreplaces⟩

/-- A line of a document is shown with an outcome, and with markup unless its expression is none. -/
structure Displays (line source : String) (assigned : Option String)
    (outcome : Answer Float Evaluated) (shown : Line) : Prop where
  source_eq : shown.source = line
  assignedTo_eq : shown.assignedTo = assigned
  shows : shown.Shows outcome
  value_or_error : shown.value.isSome = !shown.error.isSome
  markup_eq_iff : shown.markup = line ↔ ∃ failure, Expr.parse source = .error failure

theorem lineMarkup_eq_iff {line : String} (hline : ∀ rest, line.toList ≠ '$' :: rest)
    (assigned : Option String) (source : String) :
    c.lineMarkup line assigned source = line ↔ ∃ failure, Expr.parse source = .error failure := by
  unfold lineMarkup
  cases Expr.parse source with
  | error failure => exact ⟨fun _ => ⟨failure, rfl⟩, fun _ => rfl⟩
  | ok e =>
    constructor
    · cases assigned with
      | none => exact fun h => absurd h (Markup.display_ne hline _)
      | some name => exact fun h => absurd h (Markup.display_ne hline _)
    · exact nofun

theorem lineOf_displays {line markup source : String}
    (hmarkup : markup = line ↔ ∃ failure, Expr.parse source = .error failure)
    (assigned : Option String) (outcome : Answer Float Evaluated) :
    Displays line source assigned outcome (lineOf line markup assigned outcome) := by
  cases outcome with
  | error failure => exact ⟨rfl, rfl, .error rfl rfl, rfl, hmarkup⟩
  | ok result => exact ⟨rfl, rfl, .value rfl rfl, rfl, hmarkup⟩

theorem evaluateLine_of_assigns {line name source : String} (h : Assigns line name source) :
    (c.evaluateLine line).2 = (c.assign name source).2 ∧
      Displays line source (some name) (c.assign name source).1 (c.evaluateLine line).1 := by
  unfold evaluateLine
  rw [splitAssignment?_eq_some_iff.mpr h]
  exact ⟨rfl, lineOf_displays (c.lineMarkup_eq_iff (fun _ => h.not_dollar) _ source) _ _⟩

theorem evaluateLine_of_not_assigns {line : String} (h : ∀ name source, ¬ Assigns line name source) :
    (c.evaluateLine line).2 = c ∧
      Displays line line none (c.evaluate line) (c.evaluateLine line).1 := by
  have hsplit : splitAssignment? line = none := by
    apply Option.eq_none_iff_forall_ne_some.mpr
    rintro ⟨name, source⟩ hsome
    exact h name source (splitAssignment?_eq_some_iff.mp hsome)
  unfold evaluateLine
  rw [hsplit]
  refine ⟨rfl, lineOf_displays ?_ none (c.evaluate line)⟩
  -- A line that starts with a dollar sign is no expression, and its markup the line.
  by_cases hdollar : ∃ rest, line.toList = '$' :: rest
  · obtain ⟨rest, hrest⟩ := hdollar
    obtain ⟨failure, hfailure⟩ := parse_dollar hrest
    simp [lineMarkup, hfailure]
  · exact c.lineMarkup_eq_iff (fun rest hrest => hdollar ⟨rest, hrest⟩) none line

/-- Definitions are all or nothing, and a line is a definition or an evaluation, shown as it came
out. -/
theorem assign_and_evaluateLine (name source line : String) :
    (c.Defines name source (c.assign name source).1 (c.assign name source).2 ∧
      c.define name source =
        (c.assign name source).1.map fun result => (result, (c.assign name source).2)) ∧
    ((∃ target body, Assigns line target body ∧
        (c.evaluateLine line).2 = (c.assign target body).2 ∧
        Displays line body (some target) (c.assign target body).1 (c.evaluateLine line).1) ∨
      (∀ target body, ¬ Assigns line target body) ∧
        (c.evaluateLine line).2 = c ∧
        Displays line line none (c.evaluate line) (c.evaluateLine line).1) := by
  refine ⟨⟨c.assign_defines name source, rfl⟩, ?_⟩
  by_cases hassigns : ∃ target body, Assigns line target body
  · obtain ⟨target, body, h⟩ := hassigns
    exact .inl ⟨target, body, h, c.evaluateLine_of_assigns h⟩
  · have h : ∀ target body, ¬ Assigns line target body := fun target body h =>
      hassigns ⟨target, body, h⟩
    exact .inr ⟨h, c.evaluateLine_of_not_assigns h⟩

end Calculator

end Reckoner
