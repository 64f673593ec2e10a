import Reckoner.Proofs.Token.Characters
import Reckoner.Proofs.Token.LongestNumeral
import Reckoner.Proofs.Token.Spelling

/-!
# How a source splits into tokens

What a token spells is stated apart from the scan that reads it: a numeral or a name as long as it can
be, or a symbol. A source splits into such tokens and the blanks around them in one way, and the scan
finds it.
-/

namespace Reckoner

namespace Lexeme

/-! ## What a token spells -/

/-- The characters that are tokens by themselves, with what they stand for. -/
def symbols : List (Char × Lexeme Float) :=
  [('(', leftParen), (')', rightParen), (',', comma), ('+', operator '+'), ('-', operator '-'),
   ('*', operator '*'), ('/', operator '/'), ('^', operator '^'), ('!', operator '!'),
   ('×', operator '*'), ('·', operator '*'), ('÷', operator '/'), ('−', operator '-')]

/-- The characters of `span`, with `after` behind them, are a token: a numeral or a name that cannot be
longer there, or a symbol. -/
inductive Spells (span after : List Char) : Lexeme Float → Prop where
  | number (n : Numeral) (text : span = n.text)
      (longest : ∀ m : Numeral, m.text <+: span ++ after → m.text.length ≤ span.length) :
      Spells span after (.number n.decimal.toFloat)
  | identifier {c : Char} {more : List Char} (text : span = c :: more)
      (starts : isNameStart c = true) (parts : ∀ d ∈ more, isNamePart d = true)
      (longest : ∀ d ∈ after.head?, isNamePart d = false) :
      Spells span after (.identifier (String.ofList span))
  | symbol {c : Char} {kind : Lexeme Float} (text : span = [c]) (mem : (c, kind) ∈ symbols) :
      Spells span after kind

/-! ## Reading what is spelled -/

theorem mem_symbols_of_operatorSymbol? {c s : Char} (h : operatorSymbol? c = some s) :
    (c, .operator s) ∈ symbols := by
  unfold operatorSymbol? at h
  split at h
  · rename_i hc
    cases h
    obtain rfl | rfl | rfl | rfl | rfl | rfl := hc <;> simp [symbols]
  · split at h
    · rename_i hc
      cases h
      obtain rfl | rfl := hc <;> simp [symbols]
    · split at h
      · rename_i hc
        cases h
        simp [hc, symbols]
      · split at h
        · rename_i hc
          cases h
          simp [hc, symbols]
        · cases h

/-- Where a numeral starts, the longest one is spelled. -/
theorem exists_spells_of_startsNumeral {c : Char} {rest : List Char}
    (h : startsNumeral c rest = true) :
    ∃ (n : Numeral) (after : List Char), c :: rest = n.text ++ after ∧
      n.text.length = numeralRun (c :: rest) ∧
      (exponentRun ((c :: rest).drop (mantissaRun (c :: rest))) = 0 → n.exponent = none) ∧
      Spells n.text after (.number n.decimal.toFloat) := by
  obtain ⟨n, after, hsplit, hlength, hexponent⟩ := exists_numeral_of_startsNumeral h
  refine ⟨n, after, hsplit, hlength, hexponent, .number n rfl fun m ⟨more, hm⟩ => ?_⟩
  rw [hlength, hsplit, ← hm]
  exact length_text_le_numeralRun m more

theorem exists_spells_of_read {c : Char} {rest : List Char} {kind : Lexeme Float} {more : Nat}
    (h : read c rest = .ok (kind, more)) :
    ∃ span after, c :: rest = span ++ after ∧ span.length = more + 1 ∧ Spells span after kind := by
  cases reads_of_read h with
  | number starts spells =>
    obtain ⟨n, after, hsplit, hlength, -, hspells⟩ := exists_spells_of_startsNumeral starts
    have htake : (c :: rest).take (numeralRun (c :: rest)) = n.text := by
      rw [← hlength, hsplit, List.take_left]
    have hpos : 0 < n.text.length := List.length_pos_iff.mpr n.text_ne_nil
    rw [htake, n.ofNumeral?_text] at spells
    cases spells
    exact ⟨n.text, after, hsplit, by omega, hspells⟩
  | identifier starts =>
    refine ⟨c :: rest.takeWhile isNamePart, rest.dropWhile isNamePart, ?_, rfl,
      .identifier rfl starts (List.all_eq_true.mp List.all_takeWhile) fun d hd => ?_⟩
    · rw [List.cons_append, List.takeWhile_append_dropWhile]
    · have hnot := List.head?_dropWhile_not isNamePart rest
      rw [Option.mem_def.mp hd] at hnot
      exact hnot
  | leftParen char => exact ⟨['('], rest, by rw [char]; rfl, rfl, .symbol rfl (by simp [symbols])⟩
  | rightParen char => exact ⟨[')'], rest, by rw [char]; rfl, rfl, .symbol rfl (by simp [symbols])⟩
  | comma char => exact ⟨[','], rest, by rw [char]; rfl, rfl, .symbol rfl (by simp [symbols])⟩
  | operator spells => exact ⟨[c], rest, rfl, rfl, .symbol rfl (mem_symbols_of_operatorSymbol? spells)⟩

/-- A symbol starts neither a numeral nor a name, so it is read by itself. -/
theorem read_of_mem_symbols {c : Char} {kind : Lexeme Float} (h : (c, kind) ∈ symbols)
    (rest : List Char) : read c rest = .ok (kind, 0) := by
  have hstarts : symbols.all (fun s => !s.1.isDigit && s.1 != '.' && !isNameStart s.1) = true := by
    decide +kernel
  have hc : (!c.isDigit && c != '.' && !isNameStart c) = true := List.all_eq_true.mp hstarts _ h
  simp only [Bool.and_eq_true, Bool.not_eq_true', bne_iff_ne] at hc
  obtain ⟨⟨hdigit, hpoint⟩, hname⟩ := hc
  have hnumeral : startsNumeral c rest = false := by simp [startsNumeral, hdigit, hpoint]
  unfold read
  rw [if_neg (by simp [hnumeral]), if_neg (by simp [hname])]
  simp only [symbols, List.mem_cons, Prod.mk.injEq, List.not_mem_nil, or_false] at h
  obtain ⟨rfl, rfl⟩ | ⟨rfl, rfl⟩ | ⟨rfl, rfl⟩ | ⟨rfl, rfl⟩ | ⟨rfl, rfl⟩ | ⟨rfl, rfl⟩ | ⟨rfl, rfl⟩ |
    ⟨rfl, rfl⟩ | ⟨rfl, rfl⟩ | ⟨rfl, rfl⟩ | ⟨rfl, rfl⟩ | ⟨rfl, rfl⟩ | ⟨rfl, rfl⟩ := h <;> rfl

theorem startsNumeral_of_isNameStart {c : Char} (h : isNameStart c = true) (rest : List Char) :
    startsNumeral c rest = false := by
  have hdigit : c.isDigit = false := by
    cases hdigit : c.isDigit with
    | true => rw [isNameStart_of_isDigit hdigit] at h; cases h
    | false => rfl
  have hpoint : (c == '.') = false := by
    rw [beq_eq_false_iff_ne]
    rintro rfl
    exact absurd h (by decide +kernel)
  rw [startsNumeral, hdigit, hpoint]
  rfl

theorem read_of_spells {c : Char} {span rest after : List Char} {kind : Lexeme Float}
    (h : Spells span after kind) (hsplit : c :: rest = span ++ after) :
    read c rest = .ok (kind, span.length - 1) := by
  cases h with
  | number n text longest =>
    subst text
    have hstarts := startsNumeral_of_text_append hsplit.symm
    unfold read
    rw [if_pos hstarts]
    dsimp only
    rw [hsplit, numeralRun_eq_length_of_longest longest, List.take_left, n.ofNumeral?_text]
  | identifier text starts parts longest =>
    subst text
    obtain ⟨rfl, rfl⟩ := List.cons.inj hsplit
    unfold read
    rw [if_neg (by simp [startsNumeral_of_isNameStart starts]), if_pos starts]
    dsimp only
    rw [List.append_eq, Text.takeWhile_append_of_stop parts longest]
    rfl
  | symbol text mem =>
    subst text
    obtain ⟨rfl, -⟩ := List.cons.inj hsplit
    exact read_of_mem_symbols mem rest

/-- There are no blanks in a token. -/
theorem Spells.isBlank_of_mem {span after : List Char} {kind : Lexeme Float}
    (h : Spells span after kind) : ∀ c ∈ span, Text.isBlank c = false := by
  intro c hc
  cases h with
  | number n text longest =>
    have hparts : ['.', 'e', 'E', '+', '-'].all (fun d => !Text.isBlank d) = true := by decide
    rcases n.mem_text (text ▸ hc) with hdigit | hother
    · cases hblank : Text.isBlank c with
      | false => rfl
      | true =>
        rw [isDigit_of_isBlank hblank] at hdigit
        cases hdigit
    · simpa using List.all_eq_true.mp hparts c hother
  | identifier text starts parts longest =>
    subst text
    rcases List.mem_cons.mp hc with rfl | hmore
    · exact isBlank_of_isNamePart (isNamePart_of_isNameStart starts)
    · exact isBlank_of_isNamePart (parts c hmore)
  | symbol text mem =>
    subst text
    have hsymbols : symbols.all (fun s => !Text.isBlank s.1) = true := by decide
    rw [List.mem_singleton.mp hc]
    simpa using List.all_eq_true.mp hsymbols _ mem

theorem Spells.span_ne_nil {span after : List Char} {kind : Lexeme Float}
    (h : Spells span after kind) : span ≠ [] := by
  cases h with
  | number n text longest => exact text ▸ n.text_ne_nil
  | identifier text starts parts longest => exact text ▸ List.cons_ne_nil _ _
  | symbol text mem => exact text ▸ List.cons_ne_nil _ _

/-- The one thing that can go wrong is a character that starts no token: every text of a numeral is
understood. -/
theorem read_eq_error {c : Char} {rest : List Char} {why : Malformed Float}
    (h : read c rest = .error why) : why = .unexpectedCharacter c := by
  unfold read at h
  split at h
  · rename_i hstarts
    obtain ⟨n, after, hsplit, hlength, -⟩ := exists_numeral_of_startsNumeral hstarts
    dsimp only at h
    rw [← hlength, hsplit, List.take_left, n.ofNumeral?_text] at h
    cases h
  · repeat' split at h
    all_goals cases h
    rfl

end Lexeme

/-- Where a token is read, the scan goes on after its characters. -/
theorem tokenizeFrom_of_read {c : Char} {rest : List Char} {kind : Lexeme Float} {more : Nat}
    (hblank : Text.isBlank c = false) (hread : Lexeme.read c rest = .ok (kind, more)) (offset : Nat) :
    tokenizeFrom offset (c :: rest) =
      (tokenizeFrom (offset + 1 + more) (rest.drop more)).map (⟨kind, offset⟩ :: ·) := by
  rw [tokenizeFrom, if_neg (by simp [hblank]), hread]
  dsimp only
  cases tokenizeFrom (offset + 1 + more) (rest.drop more) <;> rfl

/-- The scan passes over blanks. -/
theorem tokenizeFrom_blanks_append {blanks : List Char} (hblanks : ∀ b ∈ blanks, Text.isBlank b = true)
    (offset : Nat) (cs : List Char) :
    tokenizeFrom offset (blanks ++ cs) = tokenizeFrom (offset + blanks.length) cs := by
  induction blanks generalizing offset with
  | nil => rfl
  | cons b rest ih =>
    obtain ⟨hb, hrest⟩ := List.forall_mem_cons.mp hblanks
    rw [List.cons_append, tokenizeFrom, if_pos hb, ih hrest, List.length_cons, Nat.add_assoc,
      Nat.add_comm 1]

/-! ## Splitting a source -/

/-- A token with the characters that it was read from. -/
structure SpelledToken where
  token : Token Float
  span : List Char
  span_ne_nil : span ≠ []

namespace SpelledToken

/-- The offset after the last character. -/
def stop (p : SpelledToken) : Nat := p.token.offset + p.span.length

def Covers (p : SpelledToken) (i : Nat) : Prop := p.token.offset ≤ i ∧ i < p.stop

/-- The characters stand in the source at the offset of the token, and are that token there. -/
def StandsIn (p : SpelledToken) (source : List Char) : Prop :=
  ∃ after, source.drop p.token.offset = p.span ++ after ∧ Lexeme.Spells p.span after p.token.kind

theorem offset_lt_stop (p : SpelledToken) : p.token.offset < p.stop :=
  Nat.lt_add_of_pos_right (List.length_pos_iff.mpr p.span_ne_nil)

theorem covers_offset (p : SpelledToken) : p.Covers p.token.offset := ⟨Nat.le_refl _, p.offset_lt_stop⟩

theorem StandsIn.stop_le {p : SpelledToken} {source : List Char} (h : p.StandsIn source) :
    p.stop ≤ source.length := by
  obtain ⟨after, hdrop, -⟩ := h
  have hlength := congrArg List.length hdrop
  have hpos := List.length_pos_iff.mpr p.span_ne_nil
  rw [List.length_drop, List.length_append] at hlength
  rw [stop]
  omega

/-- What is read at a place of the source stands there. -/
theorem exists_standsIn_of_read {source : List Char} {i : Nat} {c : Char} {rest : List Char}
    {kind : Lexeme Float} {more : Nat} (hdrop : source.drop i = c :: rest)
    (h : Lexeme.read c rest = .ok (kind, more)) :
    ∃ p : SpelledToken, p.token = ⟨kind, i⟩ ∧ p.stop = i + 1 + more ∧ p.StandsIn source := by
  obtain ⟨span, after, hsplit, hlength, hspells⟩ := Lexeme.exists_spells_of_read h
  refine ⟨⟨⟨kind, i⟩, span, hspells.span_ne_nil⟩, rfl, ?_, after, hdrop.trans hsplit, hspells⟩
  rw [stop, hlength, Nat.add_assoc, Nat.add_comm more]

/-- The scan reads the token and goes on after its characters. -/
theorem StandsIn.tokenizeFrom_eq {p : SpelledToken} {source : List Char} (h : p.StandsIn source) :
    tokenizeFrom p.token.offset (source.drop p.token.offset) =
      (tokenizeFrom p.stop (source.drop p.stop)).map (p.token :: ·) := by
  obtain ⟨after, hdrop, hspells⟩ := h
  obtain ⟨c, more, hspan⟩ := List.exists_cons_of_ne_nil p.span_ne_nil
  have hsplit : c :: (more ++ after) = p.span ++ after := by rw [hspan]; rfl
  have hread := Lexeme.read_of_spells hspells hsplit
  have hblank : Text.isBlank c = false := hspells.isBlank_of_mem c (hspan ▸ List.mem_cons_self)
  have hlength : p.span.length - 1 = more.length := by rw [hspan]; rfl
  have hstop : p.token.offset + 1 + more.length = p.stop := by
    rw [stop, hspan, List.length_cons]
    omega
  have hafter : source.drop p.stop = after := by rw [stop, ← List.drop_drop, hdrop, List.drop_left]
  rw [hdrop, ← hsplit, tokenizeFrom_of_read hblank hread, hlength, List.drop_left, hstop, hafter]

end SpelledToken

/-- From `start` up to `stop` the source is tokens, one after another, and blanks. -/
structure Splits (source : List Char) (start stop : Nat) (pieces : List SpelledToken) : Prop where
  ordered : start ≤ stop
  stop_le : stop ≤ source.length
  stands : ∀ p ∈ pieces, p.StandsIn source
  within : ∀ p ∈ pieces, start ≤ p.token.offset ∧ p.stop ≤ stop
  apart : pieces.Pairwise fun p q => p.stop ≤ q.token.offset
  blank : ∀ i c, start ≤ i → i < stop → source[i]? = some c → (∀ p ∈ pieces, ¬ p.Covers i) →
    Text.isBlank c = true

/-- A character that is no blank, and at which no token starts. -/
structure StuckAt (source : List Char) (i : Nat) (c : Char) : Prop where
  stands : source[i]? = some c
  not_blank : Text.isBlank c = false
  no_token : ∀ p : SpelledToken, p.token.offset = i → ¬ p.StandsIn source

namespace Splits

variable {source : List Char} {start middle stop : Nat} {ps qs : List SpelledToken}

theorem refl (h : start ≤ source.length) : Splits source start start [] where
  ordered := Nat.le_refl _
  stop_le := h
  stands := nofun
  within := nofun
  apart := .nil
  blank i c hstart hstop := absurd hstop (by omega)

theorem skip {c : Char} (h : source[start]? = some c) (hblank : Text.isBlank c = true) :
    Splits source start (start + 1) [] where
  ordered := by omega
  stop_le := (List.getElem?_eq_some_iff.mp h).1
  stands := nofun
  within := nofun
  apart := .nil
  blank i d hstart hstop hd _ := by
    obtain rfl : i = start := by omega
    rw [h] at hd
    cases hd
    exact hblank

theorem token {p : SpelledToken} (h : p.StandsIn source) : Splits source p.token.offset p.stop [p] where
  ordered := p.offset_lt_stop.le
  stop_le := h.stop_le
  stands q hq := by rwa [List.mem_singleton.mp hq]
  within q hq := by rw [List.mem_singleton.mp hq]; exact ⟨Nat.le_refl _, Nat.le_refl _⟩
  apart := List.pairwise_singleton _ _
  blank i c hstart hstop _ hcovers := absurd ⟨hstart, hstop⟩ (hcovers p List.mem_cons_self)

theorem append (h : Splits source start middle ps) (h' : Splits source middle stop qs) :
    Splits source start stop (ps ++ qs) where
  ordered := h.ordered.trans h'.ordered
  stop_le := h'.stop_le
  stands p hp := (List.mem_append.mp hp).elim (h.stands p) (h'.stands p)
  within p hp := by
    obtain hp | hp := List.mem_append.mp hp
    · exact ⟨(h.within p hp).1, (h.within p hp).2.trans h'.ordered⟩
    · exact ⟨h.ordered.trans (h'.within p hp).1, (h'.within p hp).2⟩
  apart := List.pairwise_append.mpr
    ⟨h.apart, h'.apart, fun p hp q hq => (h.within p hp).2.trans (h'.within q hq).1⟩
  blank i c hstart hstop hc hcovers := by
    by_cases hmiddle : i < middle
    · exact h.blank i c hstart hmiddle hc fun p hp => hcovers p (List.mem_append_left _ hp)
    · exact h'.blank i c (by omega) hstop hc fun p hp => hcovers p (List.mem_append_right _ hp)

/-- What is left of a split after its first character is a split, when that character is blank. -/
theorem of_not_covered (h : Splits source start stop ps) (hlt : start < stop)
    (hcovers : ∀ p ∈ ps, ¬ p.Covers start) : Splits source (start + 1) stop ps where
  ordered := hlt
  stop_le := h.stop_le
  stands := h.stands
  within p hp := by
    have hne : start ≠ p.token.offset := fun heq => hcovers p hp (heq ▸ p.covers_offset)
    have hwithin := h.within p hp
    exact ⟨by omega, hwithin.2⟩
  apart := h.apart
  blank i c hstart := h.blank i c (by omega)

/-- A token at the start is the first one, and the others are a split of what is left after it. -/
theorem of_covered (h : Splits source start stop ps) {p : SpelledToken} (hp : p ∈ ps)
    (hcovers : p.Covers start) :
    p.token.offset = start ∧ ∃ rest, ps = p :: rest ∧ Splits source p.stop stop rest := by
  have hoffset : p.token.offset = start := Nat.le_antisymm hcovers.1 (h.within p hp).1
  cases ps with
  | nil => cases hp
  | cons q rest =>
    obtain ⟨hfirst, hrest⟩ := List.pairwise_cons.mp h.apart
    obtain rfl | hlater := List.mem_cons.mp hp
    · refine ⟨hoffset, rest, rfl, (h.within p hp).2, h.stop_le,
        fun r hr => h.stands r (List.mem_cons_of_mem _ hr),
        fun r hr => ⟨hfirst r hr, (h.within r (List.mem_cons_of_mem _ hr)).2⟩, hrest, ?_⟩
      intro i c hstart hstop hc hnone
      have hpos := p.offset_lt_stop
      refine h.blank i c (by omega) hstop hc fun r hr hr' => ?_
      obtain rfl | hr := List.mem_cons.mp hr
      · exact absurd hr'.2 (by omega)
      · exact hnone r hr hr'
    · -- A token before `p` would start before `start`.
      have hbefore := hfirst p hlater
      have hstart := (h.within q List.mem_cons_self).1
      have hpos := q.offset_lt_stop
      omega

/-- The scan reads the tokens of a split and goes on where it stops. -/
theorem tokenizeFrom_eq (h : Splits source start stop ps) :
    tokenizeFrom start (source.drop start) =
      (tokenizeFrom stop (source.drop stop)).map (ps.map SpelledToken.token ++ ·) := by
  -- On what is left of the source before `stop`.
  induction hn : stop - start using Nat.strong_induction_on generalizing start ps with
  | _ n ih =>
    by_cases hlt : start < stop
    · obtain ⟨c, hc⟩ : ∃ c, source[start]? = some c :=
        ⟨_, List.getElem?_eq_getElem (hlt.trans_le h.stop_le)⟩
      by_cases hcovered : ∃ p ∈ ps, p.Covers start
      · obtain ⟨p, hp, hcovers⟩ := hcovered
        have hstands := h.stands p hp
        obtain ⟨rfl, rest, rfl, hrest⟩ := h.of_covered hp hcovers
        have hpos := p.offset_lt_stop
        rw [hstands.tokenizeFrom_eq, ih _ (by omega) hrest rfl]
        cases tokenizeFrom stop (source.drop stop) <;> rfl
      · have hnone : ∀ p ∈ ps, ¬ p.Covers start := fun p hp hcovers => hcovered ⟨p, hp, hcovers⟩
        have hblank := h.blank start c (Nat.le_refl _) hlt hc hnone
        obtain ⟨hbound, hget⟩ := List.getElem?_eq_some_iff.mp hc
        rw [List.drop_eq_getElem_cons hbound, hget, tokenizeFrom, if_pos hblank]
        exact ih _ (by omega) (h.of_not_covered hlt hnone) rfl
    · obtain rfl : start = stop := Nat.le_antisymm h.ordered (Nat.le_of_not_lt hlt)
      cases ps with
      | nil => cases tokenizeFrom start (source.drop start) <;> rfl
      | cons p rest =>
        have hwithin := h.within p List.mem_cons_self
        have hpos := p.offset_lt_stop
        omega

end Splits

theorem StuckAt.tokenizeFrom_eq {source : List Char} {i : Nat} {c : Char} (h : StuckAt source i c) :
    tokenizeFrom i (source.drop i) =
      .error ((Cause.malformed (.unexpectedCharacter c)).at i) := by
  obtain ⟨hbound, hget⟩ := List.getElem?_eq_some_iff.mp h.stands
  have hdrop : source.drop i = c :: source.drop (i + 1) := by
    rw [List.drop_eq_getElem_cons hbound, hget]
  rw [hdrop, tokenizeFrom, if_neg (by simp [h.not_blank])]
  cases hread : Lexeme.read c (source.drop (i + 1)) with
  | error why => rw [Lexeme.read_eq_error hread]
  | ok result =>
    obtain ⟨p, hp, -, hstands⟩ := SpelledToken.exists_standsIn_of_read hdrop hread
    exact absurd hstands (h.no_token p (by rw [hp]))

/-- The scan splits a source up to its end, or up to a character that starts no token. -/
theorem exists_splits {source : List Char} {start : Nat} (h : start ≤ source.length) :
    ∃ ps stop, Splits source start stop ps ∧
      (stop = source.length ∨ ∃ c, StuckAt source stop c) := by
  induction hn : source.length - start using Nat.strong_induction_on generalizing start with
  | _ n ih =>
    by_cases hlt : start < source.length
    · have hget := List.getElem?_eq_getElem hlt
      have hdrop := List.drop_eq_getElem_cons hlt
      generalize source[start] = c at hget hdrop
      cases hblank : Text.isBlank c with
      | true =>
        have hskip := Splits.skip hget hblank
        obtain ⟨ps, stop, hsplits, hstop⟩ := ih _ (by omega) hlt rfl
        exact ⟨ps, stop, hskip.append hsplits, hstop⟩
      | false =>
        by_cases htoken : ∃ p : SpelledToken, p.token.offset = start ∧ p.StandsIn source
        · obtain ⟨p, rfl, hstands⟩ := htoken
          have hpos := p.offset_lt_stop
          obtain ⟨ps, stop, hsplits, hstop⟩ := ih _ (by omega) hstands.stop_le rfl
          exact ⟨p :: ps, stop, (Splits.token hstands).append hsplits, hstop⟩
        · exact ⟨[], start, .refl h, .inr ⟨c, hget, hblank, fun p hp hs => htoken ⟨p, hp, hs⟩⟩⟩
    · exact ⟨[], start, .refl h, .inl (by omega)⟩

/-- A source that is split up to its end has the tokens of the split. -/
theorem Splits.tokenize_eq_ok {source : String} {ps : List SpelledToken}
    (h : Splits source.toList 0 source.toList.length ps) :
    tokenize source = .ok (ps.map SpelledToken.token) := by
  have htokens := h.tokenizeFrom_eq
  rw [List.drop_zero, List.drop_length, tokenizeFrom] at htokens
  rw [tokenize, htokens, Except.map, List.append_nil]

/-- A source that is split up to a character that starts no token fails at that character. -/
theorem Splits.tokenize_eq_error {source : String} {ps : List SpelledToken} {i : Nat} {c : Char}
    (h : Splits source.toList 0 i ps) (hc : StuckAt source.toList i c) :
    tokenize source = .error ((Cause.malformed (.unexpectedCharacter c)).at i) := by
  have htokens := h.tokenizeFrom_eq
  rw [List.drop_zero, hc.tokenizeFrom_eq] at htokens
  exact htokens

/-- The tokens of a source are those of a split of it. -/
theorem exists_splits_of_tokenize_eq_ok {source : String} {ts : List (Token Float)}
    (h : tokenize source = .ok ts) :
    ∃ ps, Splits source.toList 0 source.toList.length ps ∧ ts = ps.map SpelledToken.token := by
  obtain ⟨ps, stop, hps, rfl | ⟨c, hc⟩⟩ := exists_splits source.toList.length.zero_le
  · exact ⟨ps, hps, Except.ok.inj (h.symm.trans hps.tokenize_eq_ok)⟩
  · cases h.symm.trans (hps.tokenize_eq_error hc)

/-- A source without tokens has a character that starts none, and splits up to it. -/
theorem exists_stuckAt_of_tokenize_eq_error {source : String} {f : Failure Float}
    (h : tokenize source = .error f) :
    ∃ ps i c, Splits source.toList 0 i ps ∧ StuckAt source.toList i c ∧
      f = (Cause.malformed (.unexpectedCharacter c)).at i := by
  obtain ⟨ps, stop, hps, rfl | ⟨c, hc⟩⟩ := exists_splits source.toList.length.zero_le
  · cases h.symm.trans hps.tokenize_eq_ok
  · exact ⟨ps, stop, c, hps, hc, Except.error.inj (h.symm.trans (hps.tokenize_eq_error hc))⟩

/-- Every token starts after the one before it. -/
theorem pairwise_offset_lt {source : String} {ts : List (Token Float)} (h : tokenize source = .ok ts) :
    (ts.map Token.offset).Pairwise (· < ·) := by
  obtain ⟨ps, hps, rfl⟩ := exists_splits_of_tokenize_eq_ok h
  rw [List.pairwise_map, List.pairwise_map]
  exact hps.apart.imp fun {p q} hpq => p.offset_lt_stop.trans_le hpq

theorem nodup_offset {source : String} {ts : List (Token Float)} (h : tokenize source = .ok ts) :
    (ts.map Token.offset).Nodup :=
  (pairwise_offset_lt h).imp Nat.ne_of_lt

theorem adjacent_of_calledAt {source : String} {ts : List (Token Float)} (h : tokenize source = .ok ts)
    {name : String} {offset : Nat} (hmem : ⟨.identifier name, offset⟩ ∈ ts)
    (hcalled : CalledAt source.toList offset name) :
    ∃ opened, [⟨.identifier name, offset⟩, ⟨.leftParen, opened⟩] <:+: ts := by
  obtain ⟨pre, post, rfl⟩ := List.append_of_mem hmem
  obtain ⟨c, rest, more, htoken, hpost⟩ := tokenizeFrom_eq_append 0 h
  obtain ⟨blanks, after, hname, hblanks⟩ := hcalled
  -- What follows the token follows the name: the blanks, and then the parenthesis.
  have hafter : rest.drop more = blanks ++ '(' :: after :=
    List.append_cancel_left (htoken.nameAt.spelled.symm.trans hname.spelled)
  have hread : Lexeme.read '(' after = .ok (.leftParen, 0) :=
    Lexeme.read_of_mem_symbols (by simp [Lexeme.symbols]) after
  rw [htoken.drop_next, hafter, tokenizeFrom_blanks_append hblanks,
    tokenizeFrom_of_read (by decide) hread] at hpost
  generalize tokenizeFrom _ _ = others at hpost
  cases others with
  | error failure => cases hpost
  | ok tail =>
    cases hpost
    exact ⟨offset + 1 + more + blanks.length, pre, tail, by simp⟩

/-- Tokenizing splits a source into its longest tokens and the blanks around them, all of it or all up
to the first character that starts no token, and fails in no other way. -/
theorem tokenize_splits_source (source : String) :
    (∀ ts, tokenize source = .ok ts ↔
      ∃ ps, Splits source.toList 0 source.toList.length ps ∧ ts = ps.map SpelledToken.token) ∧
    (∀ f, tokenize source = .error f ↔
      ∃ ps i c, Splits source.toList 0 i ps ∧ StuckAt source.toList i c ∧
        f = (Cause.malformed (.unexpectedCharacter c)).at i) ∧
    ∀ text position, tokenize source ≠ .error ⟨.malformed (.invalidNumber text), position⟩ := by
  refine ⟨fun ts => ⟨exists_splits_of_tokenize_eq_ok, ?_⟩,
    fun f => ⟨exists_stuckAt_of_tokenize_eq_error, ?_⟩, fun text position h => ?_⟩
  · rintro ⟨ps, hps, rfl⟩
    exact hps.tokenize_eq_ok
  · rintro ⟨ps, i, c, hps, hc, rfl⟩
    exact hps.tokenize_eq_error hc
  · obtain ⟨_, _, _, -, -, hf⟩ := exists_stuckAt_of_tokenize_eq_error h
    cases hf

end Reckoner
