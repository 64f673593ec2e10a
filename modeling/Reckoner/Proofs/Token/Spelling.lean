import Reckoner.Token.Scan

/-!
# How tokens are spelled

Each token is the one read at its own offset in the source, and between two tokens there are only
blanks. So from a token one knows what stands in the source at its offset, and from two neighbours
what stands between them.
-/

namespace Reckoner

open Lexeme

/-! ## One token after another -/

/-- The token is read at its offset, from `c` and some of the characters after it. -/
structure Token.IsReadIn (t : Token Float) (source : List Char) (c : Char) (rest : List Char)
    (more : Nat) : Prop where
  stands : source.drop t.offset = c :: rest
  read : Lexeme.read c rest = .ok (t.kind, more)

theorem Token.IsReadIn.offset_lt {t : Token Float} {source : List Char} {c : Char}
    {rest : List Char} {more : Nat} (h : t.IsReadIn source c rest more) :
    t.offset < source.length := by
  have := congrArg List.length h.stands
  simp only [List.length_drop, List.length_cons] at this
  omega

theorem Token.IsReadIn.drop_next {t : Token Float} {source : List Char} {c : Char}
    {rest : List Char} {more : Nat} (h : t.IsReadIn source c rest more) :
    source.drop (t.offset + 1 + more) = rest.drop more := by
  rw [Nat.add_assoc, ← List.drop_drop, h.stands, Nat.add_comm, List.drop_succ_cons]

/-- The first token stands after some blanks, and the other tokens are read after it. -/
theorem tokenizeFrom_eq_cons {offset : Nat} {source : List Char} {t : Token Float}
    {ts : List (Token Float)} (h : tokenizeFrom offset (source.drop offset) = .ok (t :: ts)) :
    ∃ blanks c rest more, source.drop offset = blanks ++ c :: rest ∧
      (∀ b ∈ blanks, Text.isBlank b = true) ∧ t.IsReadIn source c rest more ∧
      tokenizeFrom (t.offset + 1 + more) (source.drop (t.offset + 1 + more)) = .ok ts := by
  generalize hcs : source.drop offset = cs at h
  fun_induction tokenizeFrom offset cs with
  | case1 => cases h
  | case2 offset c rest hblank ih =>
    have hrest : source.drop (offset + 1) = rest := by
      rw [← List.drop_drop, hcs, List.drop_succ_cons, List.drop_zero]
    obtain ⟨blanks, d, after, more, hsplit, hblanks, htoken⟩ := ih hrest h
    refine ⟨c :: blanks, d, after, more, by rw [hsplit]; rfl, ?_, htoken⟩
    simpa [hblank] using hblanks
  | case3 => cases h
  | case4 => cases h
  | case5 offset c rest hblank kind more hread tokens htokens =>
    cases h
    have htoken : Token.IsReadIn ⟨kind, offset⟩ source c rest more := ⟨hcs, hread⟩
    exact ⟨[], c, rest, more, rfl, nofun, htoken, by rw [htoken.drop_next]; exact htokens⟩

/-- A failure stands at a character of the source. -/
theorem tokenizeFrom_eq_error (offset : Nat) {source : List Char} {f : Failure Float}
    (h : tokenizeFrom offset (source.drop offset) = .error f) :
    ∃ why p, f = (Cause.malformed why).at p ∧ p < source.length := by
  generalize hcs : source.drop offset = cs at h
  fun_induction tokenizeFrom offset cs with
  | case1 => cases h
  | case2 offset c rest hblank ih =>
    exact ih (by rw [← List.drop_drop, hcs, List.drop_succ_cons, List.drop_zero]) h
  | case3 offset c rest hblank why hread =>
    cases h
    refine ⟨why, offset, rfl, ?_⟩
    have := congrArg List.length hcs
    simp only [List.length_drop, List.length_cons] at this
    omega
  | case4 offset c rest hblank kind more hread failure hrest ih =>
    have htoken : Token.IsReadIn ⟨kind, offset⟩ source c rest more := ⟨hcs, hread⟩
    cases h
    exact ih htoken.drop_next hrest
  | case5 => cases h

theorem tokenizeFrom_eq_append (offset : Nat) {source : List Char} {pre post : List (Token Float)}
    {t : Token Float}
    (h : tokenizeFrom offset (source.drop offset) = .ok (pre ++ t :: post)) :
    ∃ c rest more, t.IsReadIn source c rest more ∧
      tokenizeFrom (t.offset + 1 + more) (source.drop (t.offset + 1 + more)) = .ok post := by
  induction pre generalizing offset with
  | nil =>
    obtain ⟨-, c, rest, more, -, -, htoken⟩ := tokenizeFrom_eq_cons h
    exact ⟨c, rest, more, htoken⟩
  | cons u pre ih =>
    obtain ⟨-, c, rest, more, -, -, -, hpost⟩ := tokenizeFrom_eq_cons h
    exact ih _ hpost

/-- Every token is read at its offset. -/
theorem isReadIn_of_mem {source : String} {ts : List (Token Float)}
    (h : tokenize source = .ok ts) {t : Token Float} (ht : t ∈ ts) :
    ∃ c rest more, t.IsReadIn source.toList c rest more := by
  obtain ⟨pre, post, rfl⟩ := List.append_of_mem ht
  obtain ⟨c, rest, more, htoken, -⟩ := tokenizeFrom_eq_append 0 h
  exact ⟨c, rest, more, htoken⟩

/-- Between a token and the next one there are only blanks. -/
theorem isReadIn_of_adjacent {source : String} {ts : List (Token Float)}
    (h : tokenize source = .ok ts) {t u : Token Float} (ht : [t, u] <:+: ts) :
    ∃ c rest more blanks d after more', t.IsReadIn source.toList c rest more ∧
      u.IsReadIn source.toList d after more' ∧ rest.drop more = blanks ++ d :: after ∧
      ∀ b ∈ blanks, Text.isBlank b = true := by
  obtain ⟨pre, post, rfl⟩ := ht
  rw [List.append_assoc] at h
  obtain ⟨c, rest, more, htoken, hpost⟩ := tokenizeFrom_eq_append 0 h
  obtain ⟨blanks, d, after, more', hsplit, hblanks, hnext, -⟩ := tokenizeFrom_eq_cons hpost
  rw [htoken.drop_next] at hsplit
  exact ⟨c, rest, more, blanks, d, after, more', htoken, hnext, hsplit, hblanks⟩

/-! ## Spellings -/

/-- All that can be read from `c` and the characters after it. -/
inductive Lexeme.Reads (c : Char) (rest : List Char) : Lexeme Float → Nat → Prop where
  | number {d : Decimal} (starts : startsNumeral c rest = true)
      (spells : Decimal.ofNumeral? ((c :: rest).take (numeralRun (c :: rest))) = some d) :
      Reads c rest (.number d.toFloat) (numeralRun (c :: rest) - 1)
  | identifier (starts : isNameStart c = true) :
      Reads c rest (.identifier (String.ofList (c :: rest.takeWhile isNamePart)))
        (rest.takeWhile isNamePart).length
  | leftParen (char : c = '(') : Reads c rest .leftParen 0
  | rightParen (char : c = ')') : Reads c rest .rightParen 0
  | comma (char : c = ',') : Reads c rest .comma 0
  | operator {symbol : Char} (spells : operatorSymbol? c = some symbol) :
      Reads c rest (.operator symbol) 0

theorem Lexeme.reads_of_read {c : Char} {rest : List Char} {kind : Lexeme Float} {more : Nat}
    (h : read c rest = .ok (kind, more)) : Reads c rest kind more := by
  unfold read at h
  split at h
  · rename_i hstarts
    dsimp only at h
    split at h
    · rename_i d hd
      cases h
      exact .number hstarts hd
    · cases h
  · split at h
    · rename_i hstarts
      cases h
      exact .identifier hstarts
    · split at h
      · rename_i hc
        cases h
        exact .leftParen hc
      · split at h
        · rename_i hc
          cases h
          exact .rightParen hc
        · split at h
          · rename_i hc
            cases h
            exact .comma hc
          · split at h
            · rename_i symbol hsymbol
              cases h
              exact .operator hsymbol
            · cases h

theorem operatorSymbol?_eq_some_mark {c : Char} (h : operatorSymbol? c = some '!') : c = '!' := by
  unfold operatorSymbol? at h
  grind

/-- The name stands at the offset, and the characters after it do not prolong it. -/
structure NameAt (source : List Char) (offset : Nat) (name : String) (after : List Char) : Prop where
  spelled : source.drop offset = name.toList ++ after
  starts : ∃ c, name.toList.head? = some c ∧ isNameStart c = true
  parts : ∀ c ∈ name.toList.tail, isNamePart c = true
  longest : ∀ c ∈ after.head?, isNamePart c = false

theorem Token.IsReadIn.nameAt {name : String} {offset : Nat} {source : List Char} {c : Char}
    {rest : List Char} {more : Nat}
    (h : Token.IsReadIn ⟨.identifier name, offset⟩ source c rest more) :
    NameAt source offset name (rest.drop more) := by
  obtain ⟨hstands, hread⟩ := h
  cases reads_of_read hread with
  | identifier hstarts =>
    have hafter : rest.drop (rest.takeWhile isNamePart).length = rest.dropWhile isNamePart := by
      conv => lhs; arg 2; rw [← List.takeWhile_append_dropWhile (p := isNamePart) (l := rest)]
      exact List.drop_left
    refine ⟨?_, ⟨c, by simp, hstarts⟩, ?_, ?_⟩
    · rw [hafter, String.toList_ofList, List.cons_append, List.takeWhile_append_dropWhile]
      exact hstands
    · rw [String.toList_ofList, List.tail_cons]
      exact List.all_eq_true.mp List.all_takeWhile
    · intro d hd
      rw [hafter] at hd
      have hnot := List.head?_dropWhile_not isNamePart rest
      rw [Option.mem_def.mp hd] at hnot
      exact hnot

theorem nameAt_of_mem {source : String} {ts : List (Token Float)} (h : tokenize source = .ok ts)
    {name : String} {offset : Nat} (hmem : ⟨.identifier name, offset⟩ ∈ ts) :
    ∃ after, NameAt source.toList offset name after := by
  obtain ⟨c, rest, more, htoken⟩ := isReadIn_of_mem h hmem
  exact ⟨_, htoken.nameAt⟩

/-- The name stands at the offset, and an opening parenthesis comes next. -/
def CalledAt (source : List Char) (offset : Nat) (name : String) : Prop :=
  ∃ blanks after, NameAt source offset name (blanks ++ '(' :: after) ∧
    ∀ b ∈ blanks, Text.isBlank b = true

theorem calledAt_of_adjacent {source : String} {ts : List (Token Float)}
    (h : tokenize source = .ok ts) {name : String} {offset opened : Nat}
    (hnext : [⟨.identifier name, offset⟩, ⟨.leftParen, opened⟩] <:+: ts) :
    CalledAt source.toList offset name := by
  obtain ⟨c, rest, more, blanks, d, after, _, htoken, hparen, hsplit, hblanks⟩ :=
    isReadIn_of_adjacent h hnext
  have hname := htoken.nameAt
  cases reads_of_read hparen.read with
  | leftParen char =>
    rw [hsplit, char] at hname
    exact ⟨blanks, after, hname, hblanks⟩

theorem mark_of_mem {source : String} {ts : List (Token Float)} (h : tokenize source = .ok ts)
    {offset : Nat} (hmem : ⟨.operator '!', offset⟩ ∈ ts) : source.toList[offset]? = some '!' := by
  obtain ⟨c, rest, more, htoken⟩ := isReadIn_of_mem h hmem
  cases reads_of_read htoken.read with
  | operator spells =>
    rw [← List.head?_drop, htoken.stands, operatorSymbol?_eq_some_mark spells]
    rfl

theorem paren_of_mem {source : String} {ts : List (Token Float)} (h : tokenize source = .ok ts)
    {offset : Nat} (hmem : ⟨.leftParen, offset⟩ ∈ ts) : source.toList[offset]? = some '(' := by
  obtain ⟨c, rest, more, htoken⟩ := isReadIn_of_mem h hmem
  cases reads_of_read htoken.read with
  | leftParen char =>
    rw [← List.head?_drop, htoken.stands, char]
    rfl

theorem offset_lt_of_mem {source : String} {ts : List (Token Float)} (h : tokenize source = .ok ts)
    {t : Token Float} (ht : t ∈ ts) : t.offset < source.length := by
  obtain ⟨c, rest, more, htoken⟩ := isReadIn_of_mem h ht
  rw [← String.length_toList]
  exact htoken.offset_lt

end Reckoner
