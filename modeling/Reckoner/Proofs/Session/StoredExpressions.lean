import Reckoner.Proofs.Session.Layout
import Reckoner.Proofs.Session.Recalculation
import Reckoner.Proofs.Token.Splitting

/-!
# Stored expressions

A variable keeps the expression that it was defined by, without the blanks around it. Blanks change
the tokens of a source in their offsets alone, and a definition changes no name but its own. So the
expression keeps the value and the markup that are stored with it, unless it reads the name that it
defines; inside an integral over that name it may do so.
-/

namespace Reckoner

namespace Lexeme

/-- What is spelled in front of some text is spelled also in front of the beginning of that text. -/
theorem Spells.of_append {span after more : List Char} {kind : Lexeme Float}
    (h : Spells span (after ++ more) kind) : Spells span after kind := by
  cases h with
  | number n text longest =>
    apply Spells.number n text
    intro m hm
    apply longest m
    rw [← List.append_assoc]
    exact hm.trans (List.prefix_append _ _)
  | identifier text starts parts longest =>
    apply Spells.identifier text starts parts
    intro d hd
    apply longest d
    rw [List.head?_append, hd]
    rfl
  | symbol text mem => exact .symbol text mem

end Lexeme

/-! ## Blanks around a source -/

section Blanks

variable {blanks : List Char} (hblanks : ∀ b ∈ blanks, Text.isBlank b = true)
include hblanks

theorem tokenizeFrom_blanks (offset : Nat) : tokenizeFrom offset blanks = .ok [] := by
  have h := tokenizeFrom_blanks_append hblanks offset []
  rwa [List.append_nil, tokenizeFrom] at h

/-- A token in front of blanks ends before them. -/
theorem Lexeme.Spells.exists_eq_append {span cs after : List Char} {kind : Lexeme Float}
    (h : Spells span after kind) (hsplit : cs ++ blanks = span ++ after) :
    ∃ rest, cs = span ++ rest ∧ after = rest ++ blanks := by
  rcases List.append_eq_append_iff.mp hsplit with ⟨mid, hspan, hmid⟩ | ⟨rest, hcs, hafter⟩
  · -- The rest of the token would be blank.
    have hnone : mid = [] := by
      apply List.eq_nil_iff_forall_not_mem.mpr
      intro c hc
      have hblank := hblanks c (hmid ▸ List.mem_append_left _ hc)
      rw [h.isBlank_of_mem c (hspan ▸ List.mem_append_right _ hc)] at hblank
      cases hblank
    subst hnone
    rw [List.append_nil] at hspan
    exact ⟨[], by rw [hspan, List.append_nil], hmid.symm⟩
  · exact ⟨rest, hcs, hafter⟩

theorem Lexeme.read_of_read_append {c : Char} {rest : List Char} {kind : Lexeme Float} {more : Nat}
    (h : read c (rest ++ blanks) = .ok (kind, more)) :
    read c rest = .ok (kind, more) ∧ (rest ++ blanks).drop more = rest.drop more ++ blanks := by
  obtain ⟨span, after, hsplit, hlength, hspells⟩ := exists_spells_of_read h
  rw [← List.cons_append] at hsplit
  obtain ⟨left, hcs, rfl⟩ := hspells.exists_eq_append hblanks hsplit
  constructor
  · rw [read_of_spells hspells.of_append hcs, hlength, Nat.add_sub_cancel]
  · have hle : more ≤ rest.length := by
      have hsize := congrArg List.length hcs
      rw [List.length_cons, List.length_append, hlength] at hsize
      omega
    exact List.drop_append_of_le_length hle

/-- The same tokens are read without the blanks behind them, whatever the offset that they start from. -/
theorem exists_tokenizeFrom_eq_ok {offset : Nat} {cs : List Char} {ts : List (Token Float)}
    (h : tokenizeFrom offset (cs ++ blanks) = .ok ts) (start : Nat) :
    ∃ us, tokenizeFrom start cs = .ok us ∧ us.map Token.kind = ts.map Token.kind := by
  -- On the length of the source, since a token takes several characters off it.
  induction hn : cs.length using Nat.strong_induction_on generalizing offset cs ts start with
  | _ n ih =>
    cases cs with
    | nil =>
      rw [List.nil_append, tokenizeFrom_blanks hblanks] at h
      cases h
      exact ⟨[], tokenizeFrom.eq_1 start, rfl⟩
    | cons c rest =>
      rw [List.length_cons] at hn
      rw [List.cons_append] at h
      cases hblank : Text.isBlank c with
      | true =>
        rw [tokenizeFrom, if_pos hblank] at h ⊢
        exact ih rest.length (by omega) h (start + 1) rfl
      | false =>
        cases hread : Lexeme.read c (rest ++ blanks) with
        | error why =>
          rw [tokenizeFrom, if_neg (by simp [hblank]), hread] at h
          cases h
        | ok result =>
          obtain ⟨kind, more⟩ := result
          obtain ⟨hread', hdrop⟩ := Lexeme.read_of_read_append hblanks hread
          rw [tokenizeFrom_of_read hblank hread, hdrop] at h
          rw [tokenizeFrom_of_read hblank hread']
          cases htail : tokenizeFrom (offset + 1 + more) (rest.drop more ++ blanks) with
          | error failure =>
            rw [htail] at h
            cases h
          | ok tail =>
            rw [htail] at h
            cases h
            have hshorter : (rest.drop more).length < n := by
              rw [List.length_drop]
              omega
            obtain ⟨us, hus, hkinds⟩ := ih _ hshorter htail (start + 1 + more) rfl
            refine ⟨⟨kind, start⟩ :: us, ?_, by rw [List.map_cons, List.map_cons, hkinds]⟩
            rw [hus]
            rfl

end Blanks

/-- Trimming a source keeps the kinds of its tokens. -/
theorem exists_tokenize_trim_eq_ok {source : String} {ts : List (Token Float)}
    (h : tokenize source = .ok ts) :
    ∃ us, tokenize (Text.trim source) = .ok us ∧ us.map Token.kind = ts.map Token.kind := by
  obtain ⟨before, after, hsplit, hbefore, hafter⟩ := Text.exists_between_trimChars source.toList
  rw [tokenize, hsplit, tokenizeFrom_blanks_append hbefore] at h
  rw [tokenize, Text.trim, String.toList_ofList]
  exact exists_tokenizeFrom_eq_ok hafter h 0

namespace Calculator

variable (c : Calculator)

/-- A source evaluates to the same without the blanks around it. -/
theorem evaluate_trim_of_eq_ok {source : String} {result : Evaluated}
    (h : c.evaluate source = .ok result) : c.evaluate (Text.trim source) = .ok result := by
  cases htokens : tokenize source with
  | error failure =>
    rw [evaluate, Expr.parse, htokens] at h
    cases h
  | ok ts =>
    obtain ⟨us, hus, hkinds⟩ := exists_tokenize_trim_eq_ok htokens
    obtain ⟨shown, shown', hshown, hshown', heq⟩ | ⟨failure, -, hfailure, -⟩ :=
      (c.evaluate_matches htokens hus hkinds.symm).dest
    · rw [h] at hshown
      rw [hshown', ← heq, ← hshown]
    · rw [h] at hfailure
      cases hfailure

theorem assign_of_define {name source : String} {result : Evaluated} {after : Calculator}
    (h : c.define name source = .ok (result, after)) : c.assign name source = (.ok result, after) := by
  rw [define] at h
  generalize c.assign name source = done at h
  obtain ⟨answer, store⟩ := done
  cases answer with
  | error failure => cases h
  | ok shown =>
    cases h
    rfl

/-- The expression that a definition stores with its variable evaluates again to the answer of the
definition, whose value and markup are stored, if the source does not read the name that it defines. -/
theorem evaluate_stored_expression {name source : String} {result : Evaluated} {after : Calculator}
    (hdefine : c.define name source = .ok (result, after))
    (hfree : name ∉ sourceNames c.registry source) :
    ∃ v expression, after.store.find? name = some v ∧ v.expression = some expression ∧
      after.evaluate expression = .ok result ∧ v.value = result.value ∧
      v.markup = some result.markup := by
  have hassign := c.assign_of_define hdefine
  have hdefines := c.assign_defines name source
  have hagree := c.agreeExcept_assign name source
  rw [hassign] at hdefines hagree
  have hsource : after.evaluate source = .ok result := by
    rw [← hdefines.evaluates result rfl]
    apply hagree.evaluate_eq
    intro other hother heq
    obtain rfl : name = other := Option.some.inj heq
    exact hfree hother
  have hfound := (hdefines.replaces result rfl).2.find?_eq name
  rw [if_pos rfl] at hfound
  exact ⟨_, Text.trim source, hfound, rfl, after.evaluate_trim_of_eq_ok hsource, rfl, rfl⟩

/-- The name that is defined is the variable of an integral in its expression, with blanks around. -/
theorem evaluate_stored_expression_integral :
    ∃ result after, standard.define "x" " pi * integral(x, x, 0, 1)\t" = .ok (result, after) ∧
      "x" ∉ sourceNames standard.registry " pi * integral(x, x, 0, 1)\t" ∧
      ∃ v expression, after.store.find? "x" = some v ∧ v.expression = some expression ∧
        after.evaluate expression = .ok result ∧ v.value = result.value ∧
        v.markup = some result.markup := by
  have hsome : (standard.define "x" " pi * integral(x, x, 0, 1)\t").toOption.isSome = true := by
    decide +kernel
  have hfree : "x" ∉ sourceNames standard.registry " pi * integral(x, x, 0, 1)\t" := by decide +kernel
  obtain ⟨⟨result, after⟩, hdefine⟩ := Answer.exists_eq_ok_of_isSome hsome
  exact ⟨result, after, hdefine, hfree, standard.evaluate_stored_expression hdefine hfree⟩

/-- An expression that reads the name it defines reads the new value afterwards. -/
example : ((standard.evaluateLines ["x = 1", "x = x + 1"]).2.evaluate "x + 1").toOption.map
    Evaluated.value = some 3 := by decide +kernel

end Calculator

end Reckoner
