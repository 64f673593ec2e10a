import Reckoner.Proofs.Grammar.Reading
import Reckoner.Proofs.Session
import Reckoner.Proofs.Token.Characters
import Reckoner.Proofs.Token.Spelling

/-!
# Reading back a definition

A name is read without the blanks around it. So a definition can be read back under its name when there
are none around that, as there never are in a line. With blanks it is kept under a name that is never
read, and the name that is read means what it meant before.
-/

namespace Reckoner

theorem isBlank_of_tokenizeFrom_eq_nil {offset : Nat} {cs : List Char}
    (h : tokenizeFrom offset cs = .ok []) : ∀ c ∈ cs, Text.isBlank c = true := by
  fun_induction tokenizeFrom offset cs with
  | case1 => exact List.forall_mem_nil _
  | case2 offset c rest hblank ih => exact List.forall_mem_cons.mpr ⟨hblank, ih h⟩
  | case3 => cases h
  | case4 => cases h
  | case5 => cases h

/-- A single name is read without the blanks around it. -/
theorem IsSingleName.tokenize_eq {text : String} (h : IsSingleName text) :
    ∃ offset, tokenize text = .ok [⟨.identifier (Text.trim text), offset⟩] := by
  obtain ⟨name, offset, h⟩ := h
  have htokens : tokenizeFrom 0 (text.toList.drop 0) = .ok [⟨.identifier name, offset⟩] := h
  obtain ⟨before, c, rest, more, hsplit, hbefore, hread, hafter⟩ := tokenizeFrom_eq_cons htokens
  obtain ⟨hspelled, ⟨d, hhead, hstarts⟩, hparts, -⟩ := hread.nameAt
  obtain ⟨tail, hname⟩ := List.head?_eq_some_iff.mp hhead
  rw [hread.drop_next] at hafter
  rw [hread.stands, hname] at hspelled
  rw [List.drop_zero, hspelled] at hsplit
  rw [hname, List.tail_cons] at hparts
  have hletters : ∀ b ∈ d :: tail, Text.isBlank b = false := List.forall_mem_cons.mpr
    ⟨Lexeme.isBlank_of_isNamePart (Lexeme.isNamePart_of_isNameStart hstarts),
      fun b hb => Lexeme.isBlank_of_isNamePart (hparts b hb)⟩
  have htrim : Text.trim text = name := by
    rw [Text.trim, hsplit,
      Text.trimChars_between hbefore hletters (isBlank_of_tokenizeFrom_eq_nil hafter), ← hname,
      String.ofList_toList]
  exact ⟨offset, htrim ▸ h⟩

namespace Expr

open Grammar

variable {α : Type}

/-- A name alone is a variable. -/
theorem ofTokens_identifier (sourceLength : Nat) (name : String) (offset : Nat) :
    ofTokens sourceLength [⟨.identifier name, offset⟩] =
      (.ok (.variableRef name offset) : Answer α (Expr α)) := by
  refine ofTokens_eq_ok_iff.mpr ⟨.chain (.chain (.plain (.unsigned (.postfixed (.name name offset) [])))
    .noLink) .noLink, ⟨leaf_height_le, ?_⟩, rfl, rfl⟩
  exact nofun

theorem evalIn_variableRef [Scalar α] (registry : Registry α) (store : Store α) (name : String)
    (offset : Nat) : evalIn registry store (.variableRef name offset) =
      (store.value name).mapError fun failure => failure.locate offset := by
  rw [evalIn, eval]
  rfl

end Expr

/-- The value of a single name is looked up in the store. -/
theorem IsSingleName.evaluate_eq {text : String} (h : IsSingleName text) :
    ∃ offset, ∀ c : Calculator, c.evaluate text =
      ((c.store.value (Text.trim text)).mapError fun failure => failure.locate offset).map
        fun value => ⟨value, Markup.renderDisplay c.registry (.variableRef (Text.trim text) offset)⟩ := by
  obtain ⟨offset, htokens⟩ := h.tokenize_eq
  refine ⟨offset, fun c => ?_⟩
  rw [Calculator.evaluate, Expr.parse, htokens]
  dsimp only
  rw [Expr.ofTokens_identifier]
  change (Expr.evalIn c.registry c.store _).bind _ = _
  rw [Expr.evalIn_variableRef]
  cases c.store.value (Text.trim text) <;> rfl

namespace Calculator

variable (c : Calculator)

theorem exists_evaluate_of_find? {text : String} (h : IsSingleName text) {v : Variable Float}
    (hfind : c.store.find? (Text.trim text) = some v) :
    ∃ shown, c.evaluate text = .ok shown ∧ shown.value = v.value := by
  obtain ⟨offset, hevaluate⟩ := h.evaluate_eq
  rw [hevaluate, Store.value_of_find? hfind]
  exact ⟨_, rfl, rfl⟩

/-- The name of a definition has its value, if there are no blanks around it. Otherwise it means what
it meant before. -/
theorem evaluate_of_replaces {name : String} (h : IsSingleName name) {v : Variable Float}
    {store : Store Float} (hreplaces : c.store.Replaces store v) (hname : v.name = name) :
    if Text.trim name = name then
      ∃ shown, { c with store := store }.evaluate name = .ok shown ∧ shown.value = v.value
    else { c with store := store }.evaluate name = c.evaluate name := by
  have hfind := hreplaces.find?_eq (Text.trim name)
  rw [hname] at hfind
  split
  · rename_i htrim
    exact exists_evaluate_of_find? _ h (hfind.trans (if_pos htrim))
  · rename_i htrim
    obtain ⟨offset, hevaluate⟩ := h.evaluate_eq
    have hvalue : store.value (Text.trim name) = c.store.value (Text.trim name) := by
      rw [Store.value, Store.value?, hfind, if_neg htrim, hreplaces.builtins_eq]
      rfl
    rw [hevaluate, hevaluate, hvalue]

theorem evaluate_of_assign_ok {name source : String} {result : Evaluated}
    (h : (c.assign name source).1 = .ok result) :
    if Text.trim name = name then
      ∃ shown, (c.assign name source).2.evaluate name = .ok shown ∧ shown.value = result.value
    else (c.assign name source).2.evaluate name = c.evaluate name := by
  obtain ⟨-, hassign⟩ | ⟨failure, -, -, hassign⟩ | ⟨result', store, hname, -, hreplaces, hassign⟩ :=
    c.assign_cases name source
  · rw [hassign] at h
    cases h
  · rw [hassign] at h
    cases h
  · rw [hassign] at h ⊢
    cases h
    exact c.evaluate_of_replaces hname hreplaces rfl

/-- A variable that a definition or a line has set is read back under its name. Only a definition whose
name was given with blanks around it is not: that name means what it meant before. -/
theorem evaluate_defined_name :
    (∀ name source result after, c.define name source = .ok (result, after) →
      if Text.trim name = name then
        ∃ shown, after.evaluate name = .ok shown ∧ shown.value = result.value
      else after.evaluate name = c.evaluate name) ∧
    ∀ line name, (c.evaluateLine line).1.error = none →
      (c.evaluateLine line).1.assignedTo = some name →
      ∃ shown, (c.evaluateLine line).2.evaluate name = .ok shown ∧
        (c.evaluateLine line).1.value = some shown.value := by
  constructor
  · intro name source result after h
    rw [define] at h
    cases hanswer : (c.assign name source).1 with
    | error failure => rw [hanswer] at h; cases h
    | ok result' =>
      rw [hanswer] at h
      cases h
      exact c.evaluate_of_assign_ok hanswer
  · intro line name herror hassigned
    by_cases hassigns : ∃ target source, Assigns line target source
    · obtain ⟨target, source, hassigns⟩ := hassigns
      obtain ⟨hafter, hdisplays⟩ := c.evaluateLine_of_assigns hassigns
      obtain rfl : target = name := by
        rw [hdisplays.assignedTo_eq] at hassigned
        exact Option.some.inj hassigned
      obtain ⟨result, hanswer, hline⟩ := hdisplays.shows.exists_eq_ok herror
      obtain ⟨before, -, -, htarget, -⟩ := hassigns
      have htrim : Text.trim target = target := by rw [htarget, Text.trim_trim]
      have hread := c.evaluate_of_assign_ok hanswer
      rw [if_pos htrim] at hread
      obtain ⟨shown, hshown, hvalue⟩ := hread
      exact ⟨shown, hafter ▸ hshown, by rw [hline, hvalue]⟩
    · have hnone := c.evaluateLine_of_not_assigns fun target source h => hassigns ⟨target, source, h⟩
      rw [hnone.2.assignedTo_eq] at hassigned
      cases hassigned

/-- A name is defined and read, and with blanks around it is defined and not read. -/
theorem evaluate_defined_name_blanks :
    (∃ result after shown, standard.define "x" "1" = .ok (result, after) ∧
      after.evaluate "x" = .ok shown ∧ shown.value = result.value) ∧
    ∃ result after failure, standard.define " x " "1" = .ok (result, after) ∧
      after.evaluate " x " = .error failure := by
  constructor
  · have hsome : (standard.define "x" "1").toOption.isSome = true := by decide +kernel
    cases hdefine : standard.define "x" "1" with
    | error failure => rw [hdefine] at hsome; cases hsome
    | ok done =>
      have hread := standard.evaluate_defined_name.1 "x" "1" done.1 done.2 hdefine
      rw [if_pos (by decide +kernel)] at hread
      obtain ⟨shown, hshown, hvalue⟩ := hread
      exact ⟨done.1, done.2, shown, rfl, hshown, hvalue⟩
  · have hsome : (standard.define " x " "1").toOption.isSome = true := by decide +kernel
    have hnone : (standard.evaluate " x ").toOption.isSome = false := by decide +kernel
    cases hdefine : standard.define " x " "1" with
    | error failure => rw [hdefine] at hsome; cases hsome
    | ok done =>
      have hread := standard.evaluate_defined_name.1 " x " "1" done.1 done.2 hdefine
      rw [if_neg (by decide +kernel)] at hread
      cases hevaluate : standard.evaluate " x " with
      | error failure => exact ⟨done.1, done.2, failure, rfl, hread.trans hevaluate⟩
      | ok shown => rw [hevaluate] at hnone; cases hnone

end Calculator

end Reckoner
