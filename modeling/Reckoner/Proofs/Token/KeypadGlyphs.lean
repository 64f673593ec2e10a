import Reckoner.Calculator
import Reckoner.Proofs.Token.Splitting

/-!
# Keypad glyphs

A keypad glyph is another way to write an operator, so a source can be written without glyphs. There is
one exception: an exponent is signed by a plain minus only.
-/

namespace Reckoner

namespace Lexeme

/-- The keypad glyphs, with the operators that they stand for. -/
def keypad : List (Char × Char) := [('×', '*'), ('·', '*'), ('÷', '/'), ('−', '-')]

/-- The operator in place of a keypad glyph. -/
def plainChar (c : Char) : Char := ((keypad.find? fun g => g.1 == c).map Prod.snd).getD c

theorem plainChar_eq_or (c : Char) : plainChar c = c ∨ (c, plainChar c) ∈ keypad := by
  rw [plainChar]
  cases hfind : keypad.find? fun g => g.1 == c with
  | none => exact .inl rfl
  | some g =>
    have hc : g.1 = c := by simpa using List.find?_some hfind
    exact .inr (hc ▸ List.mem_of_find?_eq_some hfind)

/-- The characters with the glyphs written as operators, but for those at the places to keep. -/
def respell (keep : Nat → Bool) : Nat → List Char → List Char
  | _, [] => []
  | i, c :: rest => (if keep i then c else plainChar c) :: respell keep (i + 1) rest

/-- A mark that neither a sign nor a digit follows starts no exponent. -/
theorem exponentRun_eq_zero_of_next {mark c : Char} {ds : List Char}
    (h : ¬ (c = '+' ∨ c = '-') ∧ c.isDigit = false) : exponentRun (mark :: c :: ds) = 0 := by
  simp [exponentRun, h.1, digitRun, h.2]

/-- Neither a glyph after a mark nor its operator starts an exponent, but for a minus before digits. -/
theorem exponentRun_of_mem_keypad {mark c c' : Char} (hmark : mark = 'e' ∨ mark = 'E')
    (hc : (c, c') ∈ keypad) {ds ds' : List Char} (hdigits : c = '−' → digitRun ds' = 0) :
    exponentRun (mark :: c :: ds) = 0 ∧ exponentRun (mark :: c' :: ds') = 0 := by
  simp only [keypad, List.mem_cons, Prod.mk.injEq, List.not_mem_nil, or_false] at hc
  obtain ⟨rfl, rfl⟩ | ⟨rfl, rfl⟩ | ⟨rfl, rfl⟩ | ⟨rfl, rfl⟩ := hc
  · exact ⟨exponentRun_eq_zero_of_next (by decide), exponentRun_eq_zero_of_next (by decide)⟩
  · exact ⟨exponentRun_eq_zero_of_next (by decide), exponentRun_eq_zero_of_next (by decide)⟩
  · exact ⟨exponentRun_eq_zero_of_next (by decide), exponentRun_eq_zero_of_next (by decide)⟩
  · refine ⟨exponentRun_eq_zero_of_next (by decide), ?_⟩
    rw [exponentRun_signed hmark (.inr rfl), if_pos (hdigits rfl)]

/-- A glyph and its operator are the same token. -/
theorem mem_symbols_of_mem_keypad {c d : Char} (h : (c, d) ∈ keypad) :
    (c, operator d) ∈ symbols ∧ (d, operator d) ∈ symbols := by
  simp only [keypad, List.mem_cons, Prod.mk.injEq, List.not_mem_nil, or_false] at h
  obtain ⟨rfl, rfl⟩ | ⟨rfl, rfl⟩ | ⟨rfl, rfl⟩ | ⟨rfl, rfl⟩ := h <;> simp [symbols]

theorem isBlank_of_mem_keypad {c d : Char} (h : (c, d) ∈ keypad) :
    Text.isBlank c = false ∧ Text.isBlank d = false := by
  have hnone : keypad.all (fun g => !Text.isBlank g.1 && !Text.isBlank g.2) = true := by decide
  simpa using List.all_eq_true.mp hnone _ h

theorem plainChar_of_isDigit {c : Char} (h : c.isDigit = true) : plainChar c = c := by
  obtain heq | hmem := plainChar_eq_or c
  · exact heq
  · have hnone : keypad.all (fun g => !g.1.isDigit) = true := by decide
    have hc : c.isDigit = false := by simpa using List.all_eq_true.mp hnone _ hmem
    rw [hc] at h
    cases h

/-- There are no glyphs in a numeral. -/
theorem plainChar_of_mem_text {n : Numeral} : ∀ c ∈ n.text, plainChar c = c := by
  intro c hc
  have hparts : ['.', 'e', 'E', '+', '-'].all (fun d => plainChar d == d) = true := by decide
  rcases n.mem_text hc with hdigit | hother
  · exact plainChar_of_isDigit hdigit
  · exact eq_of_beq (List.all_eq_true.mp hparts c hother)

section Respell

variable (keep : Nat → Bool)

theorem respell_cons (i : Nat) (c : Char) (rest : List Char) :
    ∃ d, (d = c ∨ keep i = false ∧ (c, d) ∈ keypad) ∧
      respell keep i (c :: rest) = d :: respell keep (i + 1) rest := by
  refine ⟨if keep i then c else plainChar c, ?_, rfl⟩
  cases keep i with
  | true => exact .inl rfl
  | false => exact (plainChar_eq_or c).imp_right fun h => ⟨rfl, h⟩

theorem drop_respell (n i : Nat) (cs : List Char) :
    (respell keep i cs).drop n = respell keep (i + n) (cs.drop n) := by
  induction n generalizing i cs with
  | zero => rfl
  | succ n ih =>
    cases cs with
    | nil => rfl
    | cons c rest =>
      rw [respell, List.drop_succ_cons, List.drop_succ_cons, ih, Nat.add_right_comm]
      rfl

theorem length_respell (i : Nat) (cs : List Char) : (respell keep i cs).length = cs.length := by
  induction cs generalizing i with
  | nil => rfl
  | cons c rest ih => rw [respell, List.length_cons, List.length_cons, ih]

/-- A run of characters among which there are no glyphs and no operators is as before. -/
theorem takeWhile_respell {p : Char → Bool} (hp : keypad.all (fun g => !p g.1 && !p g.2) = true)
    (i : Nat) (cs : List Char) : (respell keep i cs).takeWhile p = cs.takeWhile p := by
  induction cs generalizing i with
  | nil => rfl
  | cons c rest ih =>
    obtain ⟨d, rfl | ⟨-, hd⟩, hcons⟩ := respell_cons keep i c rest
    · rw [hcons, List.takeWhile_cons, List.takeWhile_cons, ih]
    · have hnone : p c = false ∧ p d = false := by
        simpa using List.all_eq_true.mp hp _ hd
      rw [hcons, List.takeWhile_cons_of_neg (by simp [hnone.2]),
        List.takeWhile_cons_of_neg (by simp [hnone.1])]

theorem take_respell {n : Nat} {i : Nat} {cs : List Char} (h : ∀ c ∈ cs.take n, plainChar c = c) :
    (respell keep i cs).take n = cs.take n := by
  induction n generalizing i cs with
  | zero => rfl
  | succ n ih =>
    cases cs with
    | nil => rfl
    | cons c rest =>
      rw [List.take_succ_cons] at h
      rw [respell, List.take_succ_cons, List.take_succ_cons, h c List.mem_cons_self, ite_self,
        ih fun d hd => h d (List.mem_cons_of_mem _ hd)]

theorem digitRun_respell (i : Nat) (cs : List Char) :
    digitRun (respell keep i cs) = digitRun cs :=
  congrArg List.length (takeWhile_respell keep (by decide) i cs)

theorem fractionRun_respell (i : Nat) (cs : List Char) :
    fractionRun (respell keep i cs) = fractionRun cs := by
  cases cs with
  | nil => rfl
  | cons c rest =>
    obtain ⟨d, rfl | ⟨-, hd⟩, hcons⟩ := respell_cons keep i c rest
    · rw [hcons]
      by_cases hpoint : d = '.'
      · rw [hpoint, fractionRun, fractionRun, digitRun_respell]
      · rw [fractionRun_eq_zero (by simp [hpoint]), fractionRun_eq_zero (by simp [hpoint])]
    · have hnone : keypad.all (fun g => g.1 != '.' && g.2 != '.') = true := by decide
      have hne : c ≠ '.' ∧ d ≠ '.' := by simpa using List.all_eq_true.mp hnone _ hd
      rw [hcons, fractionRun_eq_zero (by simp [hne]), fractionRun_eq_zero (by simp [hne])]

theorem mantissaRun_respell (i : Nat) (cs : List Char) :
    mantissaRun (respell keep i cs) = mantissaRun cs := by
  rw [mantissaRun, digitRun_respell, drop_respell, fractionRun_respell, mantissaRun]

/-- Behind a mark an exponent is as long as before, if a minus glyph before a digit is kept. -/
theorem exponentRun_mark_respell {mark : Char} (hmark : mark = 'e' ∨ mark = 'E') {i : Nat}
    {rest : List Char}
    (h : ∀ digit after, rest = '−' :: digit :: after → digit.isDigit = true → keep i = true) :
    exponentRun (mark :: respell keep i rest) = exponentRun (mark :: rest) := by
  cases rest with
  | nil => rfl
  | cons c ds =>
    obtain ⟨d, rfl | ⟨hkeep, hd⟩, hcons⟩ := respell_cons keep i c ds
    · by_cases hsign : d = '+' ∨ d = '-'
      · rw [hcons, exponentRun_signed hmark hsign, exponentRun_signed hmark hsign, digitRun_respell]
      · have hhead : ∀ more : List Char, ∀ a ∈ (d :: more).head?, ¬ (a = '+' ∨ a = '-') := by
          rintro more a ⟨⟩
          exact hsign
        rw [exponentRun_unsigned hmark (by rw [hcons]; exact hhead _),
          exponentRun_unsigned hmark (hhead _), digitRun_respell]
    · have hdigits : c = '−' → digitRun (respell keep (i + 1) ds) = 0 := by
        rintro rfl
        rw [digitRun_respell]
        refine digitRun_eq_zero fun digit hdigit => ?_
        obtain ⟨after, rfl⟩ := List.head?_eq_some_iff.mp hdigit
        -- A digit after the minus would keep it.
        cases hisDigit : digit.isDigit with
        | false => rfl
        | true =>
          rw [h digit after rfl hisDigit] at hkeep
          cases hkeep
      obtain ⟨hglyph, hoperator⟩ := exponentRun_of_mem_keypad hmark hd hdigits
      rw [hcons, hoperator, hglyph]

/-- An exponent is as long as before, if a minus glyph between its mark and a digit is kept. -/
theorem exponentRun_respell {i : Nat} {cs : List Char}
    (h : ∀ mark digit after, cs = mark :: '−' :: digit :: after → (mark = 'e' ∨ mark = 'E') →
      digit.isDigit = true → keep (i + 1) = true) :
    exponentRun (respell keep i cs) = exponentRun cs := by
  cases cs with
  | nil => rfl
  | cons c rest =>
    obtain ⟨d, rfl | ⟨-, hd⟩, hcons⟩ := respell_cons keep i c rest
    · rw [hcons]
      by_cases hmark : d = 'e' ∨ d = 'E'
      · exact exponentRun_mark_respell keep hmark fun digit after hrest =>
          h d digit after (by rw [hrest]) hmark
      · have hhead : ∀ more : List Char, ∀ a ∈ (d :: more).head?, ¬ (a = 'e' ∨ a = 'E') := by
          rintro more a ⟨⟩
          exact hmark
        rw [exponentRun_eq_zero (hhead _), exponentRun_eq_zero (hhead _)]
    · have hnone : keypad.all (fun g => !(g.1 == 'e' || g.1 == 'E') && !(g.2 == 'e' || g.2 == 'E')) =
          true := by decide
      have hmarks : ¬ (c = 'e' ∨ c = 'E') ∧ ¬ (d = 'e' ∨ d = 'E') := by
        simpa using List.all_eq_true.mp hnone _ hd
      rw [hcons, exponentRun_eq_zero (by rintro _ ⟨⟩; exact hmarks.2),
        exponentRun_eq_zero (by rintro _ ⟨⟩; exact hmarks.1)]

theorem numeralRun_respell {i : Nat} {cs : List Char}
    (h : ∀ mark digit after, cs.drop (mantissaRun cs) = mark :: '−' :: digit :: after →
      (mark = 'e' ∨ mark = 'E') → digit.isDigit = true → keep (i + mantissaRun cs + 1) = true) :
    numeralRun (respell keep i cs) = numeralRun cs := by
  rw [numeralRun_eq, mantissaRun_respell, drop_respell, exponentRun_respell keep h, numeralRun_eq]

/-! ## Tokens under another spelling -/

theorem isDigit_head?_respell (i : Nat) (cs : List Char) :
    (respell keep i cs).head?.map Char.isDigit = cs.head?.map Char.isDigit := by
  cases cs with
  | nil => rfl
  | cons c rest =>
    obtain ⟨d, rfl | ⟨-, hd⟩, hcons⟩ := respell_cons keep i c rest
    · rw [hcons]
      rfl
    · have hnone : keypad.all (fun g => !g.1.isDigit && !g.2.isDigit) = true := by decide
      have hdigit : c.isDigit = false ∧ d.isDigit = false := by
        simpa using List.all_eq_true.mp hnone _ hd
      rw [hcons]
      simp [hdigit]

/-- A token is read as before, when an exponent is. -/
theorem read_respell {i : Nat} {c d : Char} {rest : List Char}
    (hcons : respell keep i (c :: rest) = d :: respell keep (i + 1) rest)
    (hrun : startsNumeral c rest = true →
      numeralRun (respell keep i (c :: rest)) = numeralRun (c :: rest)) :
    read d (respell keep (i + 1) rest) = read c rest := by
  obtain ⟨e, rfl | ⟨-, he⟩, hcons'⟩ := respell_cons keep i c rest
  · obtain rfl : e = d := List.head_eq_of_cons_eq (hcons'.symm.trans hcons)
    have hstarts : startsNumeral e (respell keep (i + 1) rest) = startsNumeral e rest := by
      rw [startsNumeral, isDigit_head?_respell, startsNumeral]
    by_cases hnumeral : startsNumeral e rest = true
    · obtain ⟨n, after, hsplit, hlength, -⟩ := exists_numeral_of_startsNumeral hnumeral
      have htake : (respell keep i (e :: rest)).take (numeralRun (e :: rest)) =
          (e :: rest).take (numeralRun (e :: rest)) := by
        refine take_respell keep ?_
        rw [← hlength, hsplit, List.take_left]
        exact plainChar_of_mem_text
      have hrun := hrun hnumeral
      rw [hcons] at htake hrun
      unfold read
      dsimp only
      rw [hstarts, hrun, htake, if_pos hnumeral, if_pos hnumeral]
    · have hmore : (respell keep (i + 1) rest).takeWhile isNamePart = rest.takeWhile isNamePart :=
        takeWhile_respell keep (by decide +kernel) _ _
      unfold read
      dsimp only
      rw [hstarts, if_neg hnumeral, if_neg hnumeral, hmore]
  · obtain rfl : e = d := List.head_eq_of_cons_eq (hcons'.symm.trans hcons)
    obtain ⟨hc, he⟩ := mem_symbols_of_mem_keypad he
    rw [read_of_mem_symbols hc, read_of_mem_symbols he]

end Respell

end Lexeme

open Lexeme

/-- A numeral without exponent, with a mark, a minus glyph and a digit right behind it: with a plain
minus they would be its exponent. -/
structure ExponentBehind (source : List Char) (p : SpelledToken) : Prop where
  reached : ∃ ps, Splits source 0 p.token.offset ps
  stands : p.StandsIn source
  numeral : ∃ n : Numeral, p.span = n.text ∧ n.exponent = none
  behind : ∃ mark digit after, source.drop p.stop = mark :: '−' :: digit :: after ∧
    (mark = 'e' ∨ mark = 'E') ∧ digit.isDigit = true

section Respell

variable {keep : Nat → Bool} {source : List Char}

/-- A numeral is as long as before, where the minus that would sign its exponent is kept. -/
theorem numeralRun_respell_of_keep (hkeep : ∀ p, ExponentBehind source p → keep (p.stop + 1) = true)
    {i : Nat} {ps : List SpelledToken} (hsplits : Splits source 0 i ps) {c : Char} {rest : List Char}
    (hdrop : source.drop i = c :: rest) (hstarts : startsNumeral c rest = true) :
    numeralRun (respell keep i (c :: rest)) = numeralRun (c :: rest) := by
  refine numeralRun_respell keep fun mark digit after hbehind hmark hdigit => ?_
  obtain ⟨n, tail, hsplit, hlength, hexponent, hspells⟩ := exists_spells_of_startsNumeral hstarts
  have hzero : exponentRun ((c :: rest).drop (mantissaRun (c :: rest))) = 0 := by
    rw [hbehind]
    exact exponentRun_eq_zero_of_next (by decide)
  let p : SpelledToken := ⟨⟨.number n.decimal.toFloat, i⟩, n.text, n.text_ne_nil⟩
  have hstop : p.stop = i + mantissaRun (c :: rest) := by
    change i + n.text.length = _
    rw [hlength, numeralRun_eq, hzero, Nat.add_zero]
  rw [← hstop]
  refine hkeep p ⟨⟨ps, hsplits⟩, ⟨tail, hdrop.trans hsplit, hspells⟩, ⟨n, rfl, hexponent hzero⟩,
    mark, digit, after, ?_, hmark, hdigit⟩
  rw [hstop, ← List.drop_drop, hdrop, hbehind]

theorem tokenizeFrom_respell (hkeep : ∀ p, ExponentBehind source p → keep (p.stop + 1) = true)
    {i : Nat} {ps : List SpelledToken} (hsplits : Splits source 0 i ps) :
    tokenizeFrom i (respell keep i (source.drop i)) = tokenizeFrom i (source.drop i) := by
  induction hn : source.length - i using Nat.strong_induction_on generalizing i ps with
  | _ n ih =>
    cases hdrop : source.drop i with
    | nil => rfl
    | cons c rest =>
      have hget : source[i]? = some c := by rw [← List.head?_drop, hdrop]; rfl
      have hlt : i < source.length := (List.getElem?_eq_some_iff.mp hget).1
      have hrest : source.drop (i + 1) = rest := by rw [← List.drop_drop, hdrop]; rfl
      obtain ⟨d, hd, hcons⟩ := respell_cons keep i c rest
      have hblank : Text.isBlank d = Text.isBlank c := by
        obtain rfl | ⟨-, hd⟩ := hd
        · rfl
        · rw [(isBlank_of_mem_keypad hd).1, (isBlank_of_mem_keypad hd).2]
      cases hc : Text.isBlank c with
      | true =>
        rw [hcons, tokenizeFrom, tokenizeFrom, hblank, if_pos hc, if_pos hc, ← hrest]
        exact ih _ (by omega) (hsplits.append (.skip hget hc)) rfl
      | false =>
        have hread := read_respell keep hcons (numeralRun_respell_of_keep hkeep hsplits hdrop)
        rw [hcons, tokenizeFrom, tokenizeFrom, hblank, if_neg (by simp [hc]), if_neg (by simp [hc]),
          hread]
        cases hresult : read c rest with
        | error why => rfl
        | ok result =>
          obtain ⟨kind, more⟩ := result
          obtain ⟨p, hp, hstop, hstands⟩ := SpelledToken.exists_standsIn_of_read hdrop hresult
          have htoken : Splits source i p.stop [p] := by
            have htoken := Splits.token hstands
            rwa [hp] at htoken
          have hnext := ih _ (by omega) (hsplits.append (hstop ▸ htoken)) rfl
          have hafter : rest.drop more = source.drop (i + 1 + more) := by
            rw [← List.drop_drop, hrest]
          dsimp only
          rw [drop_respell, hafter, hnext]

end Respell

/-- A source without keypad glyphs has the tokens and the value that it has with them. Each may be
written either way, but a minus that would then sign an exponent stays a glyph. -/
theorem evaluate_respell (source : String) (keep : Nat → Bool)
    (hkeep : ∀ p, ExponentBehind source.toList p → keep (p.stop + 1) = true) :
    tokenize (String.ofList (respell keep 0 source.toList)) = tokenize source ∧
      ∀ c : Calculator, c.evaluate (String.ofList (respell keep 0 source.toList)) =
        c.evaluate source := by
  have htokens : tokenize (String.ofList (respell keep 0 source.toList)) = tokenize source := by
    rw [tokenize, String.toList_ofList]
    exact tokenizeFrom_respell hkeep (.refl source.toList.length.zero_le)
  have hlength : (String.ofList (respell keep 0 source.toList)).length = source.length := by
    rw [← String.length_toList, String.toList_ofList, length_respell, String.length_toList]
  refine ⟨htokens, fun c => ?_⟩
  rw [Calculator.evaluate, Expr.parse, htokens, hlength]
  rfl

/-- The minus of `2e−3×4` stays a glyph, and the product is written plainly. -/
theorem evaluate_respell_scaledProduct :
    (∀ p, ExponentBehind "2e−3×4".toList p → (fun i => i == 2) (p.stop + 1) = true) ∧
      String.ofList (respell (fun i => i == 2) 0 "2e−3×4".toList) = "2e−3*4" ∧
      tokenize "2e−3*4" = tokenize "2e−3×4" ∧
      ∀ c : Calculator, c.evaluate "2e−3*4" = c.evaluate "2e−3×4" := by
  have hkeep : ∀ p, ExponentBehind "2e−3×4".toList p → (fun i => i == 2) (p.stop + 1) = true := by
    intro p h
    obtain ⟨mark, digit, after, hdrop, -, -⟩ := h.behind
    have hminus : "2e−3×4".toList[p.stop + 1]? = some '−' := by
      rw [← List.head?_drop, ← List.drop_drop, hdrop]
      rfl
    have hlt : p.stop + 1 < "2e−3×4".toList.length := (List.getElem?_eq_some_iff.mp hminus).1
    have honly : ∀ i < "2e−3×4".toList.length, "2e−3×4".toList[i]? = some '−' → i = 2 := by
      decide +kernel
    exact beq_iff_eq.mpr (honly _ hlt hminus)
  have hrespell : String.ofList (respell (fun i => i == 2) 0 "2e−3×4".toList) = "2e−3*4" := by
    decide +kernel
  exact ⟨hkeep, hrespell, hrespell ▸ evaluate_respell "2e−3×4" (fun i => i == 2) hkeep⟩

/-- With a plain minus `2e−3` is one number; with the glyph it is a difference of `2e` and `3`. -/
theorem length_tokenize_respell_exponent :
    (tokenize (String.ofList (respell (fun _ => false) 0 "2e−3".toList))).toOption.map List.length =
      some 1 ∧
    (tokenize "2e−3").toOption.map List.length = some 4 := by
  decide +kernel

end Reckoner
