import Reckoner.Proofs.Decimal.Unsigned
import Reckoner.Proofs.Grammar.Origins
import Reckoner.Proofs.Markup.Reading
import Reckoner.Proofs.Meaning.Regrouping
import Reckoner.Proofs.Token.Characters
import Reckoner.Proofs.Token.Spelling

/-!
# Literals and names in markup

A literal and a name, as a source can contain them, are each written as one word, and no two of them as
the same word: the text of a literal determines the double, and the name is found in its own text.
-/

namespace Reckoner.Markup

/-- A text that can be read as one name. -/
structure IsIdentifier (text : String) : Prop where
  starts : ∃ c, text.toList.head? = some c ∧ Lexeme.isNameStart c = true
  parts : ∀ c ∈ text.toList.tail, Lexeme.isNamePart c = true

/-- What none of the listed characters has tells them from one that has it. -/
theorem not_mem_of_all {p : Char → Bool} {l : List Char} (hl : (l.all fun d => !p d) = true)
    {c : Char} (h : p c = true) : c ∉ l := by
  intro hc
  have hnot := List.all_eq_true.mp hl c hc
  rw [h] at hnot
  cases hnot

theorem IsIdentifier.exists_eq_cons {text : String} (h : IsIdentifier text) :
    ∃ c cs, text.toList = c :: cs ∧ Lexeme.isNameStart c = true ∧
      ∀ d ∈ text.toList, Lexeme.isNamePart d = true := by
  obtain ⟨c, hc, hstart⟩ := h.starts
  obtain ⟨cs, hcs⟩ := List.head?_eq_some_iff.mp hc
  refine ⟨c, cs, hcs, hstart, ?_⟩
  have hparts := h.parts
  rw [hcs] at hparts ⊢
  exact List.forall_mem_cons.mpr ⟨Lexeme.isNamePart_of_isNameStart hstart, hparts⟩

/-! ## Escaped names -/

theorem escapeChar_of_isNamePart {c : Char} (h : Lexeme.isNamePart c = true) :
    escapeChar c = if c = '_' then ['\\', '_'] else [c] := by
  have hne : c ∉ ['\\', '\x7b', '\x7d', '%', '$', '&', '#', '^', '~'] :=
    not_mem_of_all (by decide) h
  simp only [List.mem_cons, List.not_mem_nil, or_false, not_or] at hne
  by_cases hunderscore : c = '_'
  · rw [if_pos hunderscore, hunderscore]
    rfl
  · simp [escapeChar, hne, hunderscore]

theorem mem_escapeChars {cs : List Char} (h : ∀ c ∈ cs, Lexeme.isNamePart c = true) {d : Char}
    (hd : d ∈ escapeChars cs) : d = '\\' ∨ Lexeme.isNamePart d = true := by
  obtain ⟨c, hc, hdc⟩ := List.mem_flatMap.mp hd
  rw [escapeChar_of_isNamePart (h c hc)] at hdc
  split at hdc
  · obtain rfl | rfl := List.mem_pair.mp hdc
    · exact .inl rfl
    · exact .inr rfl
  · rw [List.mem_singleton.mp hdc]
    exact .inr (h c hc)

/-- Escaping only adds backslashes to a name. -/
theorem filter_escapeChars {cs : List Char} (h : ∀ c ∈ cs, Lexeme.isNamePart c = true) :
    (escapeChars cs).filter (· != '\\') = cs := by
  induction cs with
  | nil => rfl
  | cons c cs ih =>
    obtain ⟨hc, hcs⟩ := List.forall_mem_cons.mp h
    have hne : c ≠ '\\' := by
      rintro rfl
      exact absurd hc (by decide)
    rw [escapeChars, List.flatMap_cons, List.filter_append, ← escapeChars, ih hcs,
      escapeChar_of_isNamePart hc]
    split
    · rename_i hunderscore
      rw [hunderscore]
      rfl
    · simp [hne]

/-! ## Names -/

theorem toList_upright (inner : String) :
    ("\\mathrm" ++ braced inner).toList = upright ++ inner.toList ++ ['\x7d'] := by
  have hupright : "\\mathrm".toList ++ "\x7b".toList = upright := by decide
  rw [braced, String.toList_append, String.toList_append, String.toList_append, ← List.append_assoc,
    ← List.append_assoc, hupright]
  rfl

/-- The word for a name. -/
inductive NamesAs (text : String) : List Char → Prop where
  | greek (mem : text ∈ greekNames) : NamesAs text ("\\" ++ text).toList
  | underscore (single : text.toList = ['_']) : NamesAs text ['\\', '_']
  | letter {c : Char} (single : text.toList = [c]) (starts : Lexeme.isNameStart c = true)
      (plain : c ≠ '_') : NamesAs text [c]
  | enclosed : NamesAs text (upright ++ escapeChars text.toList ++ ['\x7d'])

section

variable {registry : Registry Float} {text : String}

theorem namesAs_renderName (h : IsIdentifier text) (free : registry.constant? text = none) :
    NamesAs text (renderName registry text).toList := by
  obtain ⟨c, cs, hcs, hstart, -⟩ := h.exists_eq_cons
  rw [renderName, free]
  show NamesAs text (if greekNames.contains text then "\\" ++ text
    else if text.length = 1 then escape text else "\\mathrm" ++ braced (escape text)).toList
  split
  · rename_i hgreek
    exact .greek (by simpa using hgreek)
  · split
    · rename_i hone
      have hsingle : text.toList = [c] := by
        rw [← String.length_toList, hcs, List.length_cons] at hone
        rw [hcs, List.length_eq_zero_iff.mp (Nat.succ.inj hone)]
      rw [escape, String.toList_ofList, hsingle, escapeChars, List.flatMap_singleton,
        escapeChar_of_isNamePart (Lexeme.isNamePart_of_isNameStart hstart)]
      split
      · rename_i hunderscore
        exact .underscore (hunderscore ▸ hsingle)
      · rename_i hplain
        exact .letter hsingle hstart hplain
    · rw [toList_upright, escape, String.toList_ofList]
      exact .enclosed

/-- The name that a word was made from. -/
def nameOf (word : List Char) : List Char :=
  let inner := if upright.isPrefixOf word then (word.drop upright.length).dropLast else word
  inner.filter (· != '\\')

theorem nameOf_upright (inner : List Char) :
    nameOf (upright ++ inner ++ ['\x7d']) = inner.filter (· != '\\') := by
  have hupright : upright.isPrefixOf (upright ++ inner ++ ['\x7d']) = true := by
    rw [List.isPrefixOf_iff_prefix, List.append_assoc]
    exact List.prefix_append _ _
  rw [nameOf, hupright, if_pos rfl, List.append_assoc, List.drop_left, List.dropLast_concat]

theorem nameOf_greek : ∀ name ∈ greekNames, nameOf ("\\" ++ name).toList = name.toList := by
  decide +kernel

/-- A name is found in the word for it. -/
theorem NamesAs.nameOf_eq {word : List Char} (h : NamesAs text word) (hname : IsIdentifier text) :
    nameOf word = text.toList := by
  obtain ⟨c, cs, hcs, hstart, hparts⟩ := hname.exists_eq_cons
  cases h with
  | greek mem => exact nameOf_greek text mem
  | underscore single =>
    rw [single]
    rfl
  | @letter c single starts plain =>
    have hupright : upright.isPrefixOf [c] = false := Bool.and_false _
    rw [nameOf, hupright, if_neg Bool.false_ne_true, single]
    have hne : c ≠ '\\' := by
      rintro rfl
      exact absurd starts (by decide)
    simp [hne]
  | enclosed => rw [nameOf_upright, filter_escapeChars hparts]

theorem renderName_inj {text' : String} (h : IsIdentifier text) (h' : IsIdentifier text')
    (free : registry.constant? text = none) (free' : registry.constant? text' = none)
    (heq : renderName registry text = renderName registry text') : text = text' := by
  rw [← String.toList_inj, ← (namesAs_renderName h free).nameOf_eq h,
    ← (namesAs_renderName h' free').nameOf_eq h', heq]

/-! ## Words -/

/-- The characters that signs begin with. -/
def signStarts : List Char := ['\\', '\x7d', '\x7b', ' ', '-', '!']

theorem isWord_of_not_mem {c : Char} {cs : List Char} (h : c ∉ signStarts)
    (inside : ∀ d ∈ cs, d ∉ delimiters) : IsWord (c :: cs) := by
  have hstarts : ((upright :: signs.map Prod.fst).all fun sign =>
      (sign.head?.map signStarts.contains).getD false) = true := by decide
  refine .run (fun sign hsign => ?_) inside
  have hstart := List.all_eq_true.mp hstarts sign hsign
  cases sign with
  | nil => cases hstart
  | cons d ds =>
    have hd : d ∈ signStarts := by simpa using hstart
    have hne : d ≠ c := by
      rintro rfl
      exact h hd
    rw [differ, Bool.or_eq_true, bne_iff_ne]
    exact .inl hne

/-- The text begins like no sign and is not divided. -/
def isPlainWord (word : List Char) : Bool :=
  ((upright :: signs.map Prod.fst).all fun sign => differ sign word) &&
    word.tail.all fun c => !delimiters.contains c

theorem isWord_of_isPlainWord {word : List Char} (h : isPlainWord word = true) : IsWord word := by
  rw [isPlainWord, Bool.and_eq_true, List.all_eq_true, List.all_eq_true] at h
  exact .run h.1 fun c hc => by simpa using h.2 c hc

theorem isPlainWord_greek : ∀ name ∈ greekNames, isPlainWord ("\\" ++ name).toList = true := by
  decide +kernel

theorem NamesAs.isWord {word : List Char} (h : NamesAs text word) (hname : IsIdentifier text) :
    IsWord word := by
  obtain ⟨c, cs, hcs, hstart, hparts⟩ := hname.exists_eq_cons
  cases h with
  | greek mem => exact isWord_of_isPlainWord (isPlainWord_greek text mem)
  | underscore => exact isWord_of_isPlainWord (by decide)
  | letter single starts plain =>
    exact isWord_of_not_mem (not_mem_of_all (by decide) starts) (List.forall_mem_nil _)
  | enclosed =>
    refine .enclosed fun hmem => ?_
    obtain hbackslash | hpart := mem_escapeChars hparts hmem
    · exact absurd hbackslash (by decide)
    · exact absurd hpart (by decide)

end

theorem isWord_literal (d : Decimal) : IsWord (Decimal.Layout.plain.chars d.toFloat) := by
  obtain hspecial | ⟨c, hc, hdigit⟩ := Decimal.plain_chars_toFloat d
  · obtain hnan | hinf := List.mem_pair.mp hspecial
    · rw [hnan]
      exact isWord_of_isPlainWord (by decide)
    · rw [hinf]
      exact isWord_of_isPlainWord (by decide)
  · obtain ⟨cs, hcs⟩ := List.head?_eq_some_iff.mp hc
    rw [hcs]
    refine isWord_of_not_mem (not_mem_of_all (by decide) hdigit) fun b hb => ?_
    have hmem : b ∈ Decimal.Layout.plain.chars d.toFloat := hcs ▸ List.mem_cons_of_mem c hb
    obtain hdigit | hother := Decimal.mem_plain_chars hmem
    · exact not_mem_of_all (by decide) hdigit
    · exact not_mem_of_all (p := ['.', '-', 'N', 'a', 'i', 'n', 'f'].contains) (by decide)
        (by simpa using hother)

/-! ## Leaves -/

/-- A literal or a name that is no constant, as a source can contain them. -/
inductive IsLeaf (registry : Registry Float) : Expr Float → Prop where
  | literal (d : Decimal) : IsLeaf registry (.literal d.toFloat)
  | name {text : String} (offset : Nat) (identifier : IsIdentifier text)
      (free : registry.constant? text = none) : IsLeaf registry (.variableRef text offset)

section

variable {registry : Registry Float}

theorem render_literal (x : Float) :
    (render registry (.literal x)).toList = Decimal.Layout.plain.chars x := by
  rw [render, Decimal.Layout.text, String.toList_ofList]

theorem IsLeaf.isWord {e : Expr Float} (h : IsLeaf registry e) : IsWord (render registry e).toList := by
  cases h with
  | literal d =>
    rw [render_literal]
    exact isWord_literal d
  | name offset identifier free =>
    rw [render]
    exact (namesAs_renderName identifier free).isWord identifier

theorem exists_plain_chars_eq_cons (d : Decimal) :
    ∃ c cs, Decimal.Layout.plain.chars d.toFloat = c :: cs ∧
      (c.isDigit = true ∨ c ≠ '\\' ∧ cs ≠ []) := by
  obtain hspecial | ⟨c, hc, hdigit⟩ := Decimal.plain_chars_toFloat d
  · obtain hnan | hinf := List.mem_pair.mp hspecial
    · exact ⟨'N', ['a', 'N'], hnan, .inr (by decide)⟩
    · exact ⟨'i', ['n', 'f'], hinf, .inr (by decide)⟩
  · obtain ⟨cs, hcs⟩ := List.head?_eq_some_iff.mp hc
    exact ⟨c, cs, hcs, .inl hdigit⟩

/-- No name is written as a number. -/
theorem NamesAs.ne_literal {text : String} {word : List Char} (h : NamesAs text word) (d : Decimal) :
    word ≠ Decimal.Layout.plain.chars d.toFloat := by
  intro heq
  obtain ⟨c, cs, hcs, hfirst⟩ := exists_plain_chars_eq_cons d
  rw [hcs] at heq
  have hcommand : ∀ word, '\\' :: word ≠ c :: cs := by
    rintro word hword
    cases hword
    exact hfirst.elim (by decide) fun hne => hne.1 rfl
  cases h with
  | greek => exact hcommand text.toList (by rwa [String.toList_append] at heq)
  | underscore => exact hcommand _ heq
  | letter single starts plain =>
    cases heq
    obtain hdigit | hmore := hfirst
    · rw [Lexeme.isNameStart_of_isDigit hdigit] at starts
      cases starts
    · exact hmore.2 rfl
  | enclosed => exact hcommand _ heq

/-- A leaf is determined by its word, up to its offset. -/
theorem IsLeaf.regroups {e e' : Expr Float} (h : IsLeaf registry e) (h' : IsLeaf registry e')
    (heq : render registry e = render registry e') : e.Regroups e' := by
  have hwords := congrArg String.toList heq
  cases h with
  | literal d =>
    cases h' with
    | literal d' =>
      rw [render_literal, render_literal] at hwords
      rw [Decimal.plain_chars_injective hwords]
      exact .refl _
    | name offset' identifier' free' =>
      rw [render_literal, render] at hwords
      exact absurd hwords.symm ((namesAs_renderName identifier' free').ne_literal d)
  | name offset identifier free =>
    cases h' with
    | literal d' =>
      rw [render_literal, render] at hwords
      exact absurd hwords ((namesAs_renderName identifier free).ne_literal d')
    | name offset' identifier' free' =>
      rw [render, render] at heq
      rw [renderName_inj identifier identifier' free free' heq]
      exact .name _ offset offset'

/-- Operators over leaves. -/
inductive IsComposed (registry : Registry Float) : Expr Float → Prop where
  | leaf {e : Expr Float} (h : IsLeaf registry e) : IsComposed registry e
  | unary (op : UnaryOperator) {operand : Expr Float} (h : IsComposed registry operand) :
      IsComposed registry (.unary op operand)
  | binary (op : BinaryOperator) {left right : Expr Float} (hl : IsComposed registry left)
      (hr : IsComposed registry right) : IsComposed registry (.binary op left right)

theorem isIdentifier_of_mem {source : String} {ts : List (Token Float)}
    (h : tokenize source = .ok ts) {text : String} {offset : Nat}
    (hmem : ⟨.identifier text, offset⟩ ∈ ts) : IsIdentifier text := by
  obtain ⟨after, hname⟩ := nameAt_of_mem h hmem
  exact ⟨hname.starts, hname.parts⟩

theorem exists_numeral_of_mem {source : String} {ts : List (Token Float)}
    (h : tokenize source = .ok ts) {value : Float} {offset : Nat}
    (hmem : ⟨.number value, offset⟩ ∈ ts) : ∃ d : Decimal, value = d.toFloat := by
  obtain ⟨c, rest, more, htoken⟩ := isReadIn_of_mem h hmem
  cases Lexeme.reads_of_read htoken.read with
  | number starts spells => exact ⟨_, rfl⟩

theorem isComposed_of_allStandIn {source : String} {ts : List (Token Float)}
    (h : tokenize source = .ok ts) {e : Expr Float} (hts : e.AllStandIn ts)
    (harithmetic : e.IsArithmetic fun name => registry.constant? name = none) :
    IsComposed registry e := by
  induction e using Expr.induction with
  | literal value =>
    obtain ⟨offset, hmem⟩ := hts _ .self
    obtain ⟨d, rfl⟩ := exists_numeral_of_mem h hmem
    exact .leaf (.literal d)
  | variableRef name offset =>
    have hmem := hts _ .self
    exact .leaf (.name offset (isIdentifier_of_mem h hmem) harithmetic)
  | unary op operand ih =>
    exact .unary op (ih (fun part hpart => hts part (.operand hpart)) harithmetic)
  | binary op left right ihLeft ihRight =>
    exact .binary op (ihLeft (fun part hpart => hts part (.left hpart)) harithmetic.1)
      (ihRight (fun part hpart => hts part (.right hpart)) harithmetic.2)
  | call => cases harithmetic

theorem isComposed_of_parse {source : String} {e : Expr Float} (h : Expr.parse source = .ok e)
    (harithmetic : e.IsArithmetic fun name => registry.constant? name = none) :
    IsComposed registry e := by
  obtain ⟨ts, hts, hstand⟩ := Expr.allStandIn_of_parse h
  exact isComposed_of_allStandIn hts hstand harithmetic

end

end Reckoner.Markup
