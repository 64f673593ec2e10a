import Reckoner.Proofs.Decimal.PlainText
import Reckoner.Library
import Reckoner.Markup

/-!
# Markup is well formed

Whatever names stand in an expression, its markup closes every brace and every delimiter it opens, and
has no dollar sign that could end the display early. Markup is read here as a typesetter reads it: a
backslash takes the character after it, and letters after an escaped letter belong to one command.
-/

namespace Reckoner.Markup

/-! ## Reading markup -/

/-- One unit of markup. -/
inductive Piece where
  | plain (c : Char)
  /-- A character taken by the backslash before it. -/
  | escaped (c : Char)
deriving DecidableEq

/-- The units of a text; none when it ends in a backslash that has nothing to take. -/
def pieces? : List Char → Option (List Piece)
  | [] => some []
  | [c] => if c = '\\' then none else some [.plain c]
  | c :: d :: rest =>
    if c = '\\' then (pieces? rest).map (.escaped d :: ·)
    else (pieces? (d :: rest)).map (.plain c :: ·)

/-- What comes in pairs. -/
inductive Bracket where
  | brace
  /-- Between the commands `\left` and `\right`. -/
  | delimiter
deriving DecidableEq

inductive Mark where
  | opens (b : Bracket)
  | closes (b : Bracket)
deriving DecidableEq

/-- The marks of a command, given its letters. -/
def commandMarks (word : List Char) : List Mark :=
  if word = ['l', 'e', 'f', 't'] then [.opens .delimiter]
  else if word = ['r', 'i', 'g', 'h', 't'] then [.closes .delimiter]
  else []

def charMarks (c : Char) : List Mark :=
  if c = '\x7b' then [.opens .brace] else if c = '\x7d' then [.closes .brace] else []

/-- The letters at the start, which belong to a command that ends there. -/
def leadingLetters : List Piece → List Char
  | .plain c :: rest => if c.isAlpha then c :: leadingLetters rest else []
  | _ => []

/-- Everything that opens or closes, in order. -/
def marks : List Piece → List Mark
  | [] => []
  | .plain c :: rest => charMarks c ++ marks rest
  | .escaped c :: rest => commandMarks (c :: leadingLetters rest) ++ marks rest

/-- What is open after the marks, the innermost first; none when a mark closes anything else than the
innermost that is open. -/
def openAfter : List Bracket → List Mark → Option (List Bracket)
  | stack, [] => some stack
  | stack, .opens b :: rest => openAfter (b :: stack) rest
  | [], .closes _ :: _ => none
  | top :: stack, .closes b :: rest => if top = b then openAfter stack rest else none

structure WellFormed (units : List Piece) : Prop where
  /-- No beginning closes more braces than it opened. -/
  braces_of_prefix : ∀ start, start <+: units →
    start.count (.plain '\x7d') ≤ start.count (.plain '\x7b')
  braces : units.count (.plain '\x7d') = units.count (.plain '\x7b')
  /-- Braces and delimiters are closed in the order opposite to that in which they were opened. -/
  nested : openAfter [] (marks units) = some []
  dollarFree : .plain '$' ∉ units

/-! ## Joining texts -/

theorem pieces?_append {cs ds : List Char} {us : List Piece} (h : pieces? cs = some us) :
    pieces? (cs ++ ds) = (pieces? ds).map (us ++ ·) := by
  fun_induction pieces? cs generalizing us with
  | case1 => cases h; simp
  | case2 => cases h
  | case3 c hc =>
    cases h
    cases ds with
    | nil => simp [pieces?, hc]
    | cons d ds => simp [pieces?, hc]
  | case4 d rest ih =>
    obtain ⟨vs, hvs, rfl⟩ := Option.map_eq_some_iff.mp h
    simp [pieces?, ih hvs, Function.comp_def]
  | case5 c d rest hc ih =>
    obtain ⟨vs, hvs, rfl⟩ := Option.map_eq_some_iff.mp h
    have := ih hvs
    simp only [List.cons_append] at this ⊢
    simp [pieces?, hc, this, Function.comp_def]

theorem leadingLetters_append_of_nil {us vs : List Piece} (h : leadingLetters vs = []) :
    leadingLetters (us ++ vs) = leadingLetters us := by
  induction us with
  | nil => simpa [leadingLetters] using h
  | cons u us ih => cases u <;> simp [leadingLetters, ih]

/-- No command runs on into a text that does not begin with a letter. -/
theorem marks_append_of_nil {us vs : List Piece} (h : leadingLetters vs = []) :
    marks (us ++ vs) = marks us ++ marks vs := by
  induction us with
  | nil => rfl
  | cons u us ih => cases u <;> simp [marks, ih, leadingLetters_append_of_nil h]

theorem openAfter_append (stack : List Bracket) (ms ns : List Mark) :
    openAfter stack (ms ++ ns) = (openAfter stack ms).bind (openAfter · ns) := by
  fun_induction openAfter stack ms with
  | case1 => simp
  | case2 stack b rest ih => simpa [openAfter] using ih
  | case3 => simp [openAfter]
  | case4 stack b rest ih => simpa [openAfter] using ih
  | case5 top stack b rest hne => simp [openAfter, hne]

/-- What is open around a text does not matter to what it opens and closes itself. -/
theorem openAfter_around {stack after : List Bracket} {ms : List Mark} (around : List Bracket)
    (h : openAfter stack ms = some after) :
    openAfter (stack ++ around) ms = some (after ++ around) := by
  fun_induction openAfter stack ms with
  | case1 => cases h; rfl
  | case2 stack b rest ih => simpa [openAfter] using ih h
  | case3 => cases h
  | case4 stack b rest ih => simpa [openAfter] using ih h
  | case5 => cases h

/-! ## Counting braces -/

/-- Commands leave the number of open braces as it is. -/
theorem count_brace_of_commandMarks {word : List Char} {stack after : List Bracket}
    {ms : List Mark} (h : openAfter stack (commandMarks word ++ ms) = some after) :
    ∃ between, between.count .brace = stack.count .brace ∧ openAfter between ms = some after := by
  unfold commandMarks at h
  split at h
  · exact ⟨.delimiter :: stack, by simp, by simpa [openAfter] using h⟩
  · split at h
    · cases stack with
      | nil => simp [openAfter] at h
      | cons top stack =>
        by_cases htop : top = .delimiter
        · exact ⟨stack, by simp [htop], by simpa [openAfter, htop] using h⟩
        · simp [openAfter, htop] at h
    · exact ⟨stack, rfl, by simpa using h⟩

/-- One unit opens a brace, closes a brace or leaves the number of open braces as it is. -/
theorem count_brace_of_cons {u : Piece} {us : List Piece} {stack after : List Bracket}
    (h : openAfter stack (marks (u :: us)) = some after) :
    ∃ between, openAfter between (marks us) = some after ∧
      between.count .brace + [u].count (.plain '\x7d') =
        stack.count .brace + [u].count (.plain '\x7b') := by
  cases u with
  | escaped c =>
    obtain ⟨between, hcount, hrest⟩ := count_brace_of_commandMarks h
    exact ⟨between, hrest, by simpa using hcount⟩
  | plain c =>
    by_cases hopen : c = '\x7b'
    · subst hopen
      exact ⟨.brace :: stack, by simpa [marks, charMarks, openAfter] using h, by simp⟩
    · by_cases hclose : c = '\x7d'
      · subst hclose
        cases stack with
        | nil => simp [marks, charMarks, openAfter] at h
        | cons top stack =>
          by_cases htop : top = .brace
          · subst htop
            exact ⟨stack, by simpa [marks, charMarks, openAfter] using h, by simp⟩
          · simp [marks, charMarks, openAfter, htop] at h
      · exact ⟨stack, by simpa [marks, charMarks, hopen, hclose] using h, by simp [hopen, hclose]⟩

theorem count_braces {us : List Piece} {stack after : List Bracket}
    (h : openAfter stack (marks us) = some after) :
    after.count .brace + us.count (.plain '\x7d') = stack.count .brace + us.count (.plain '\x7b') := by
  induction us generalizing stack with
  | nil => cases h; rfl
  | cons u us ih =>
    obtain ⟨between, hrest, hu⟩ := count_brace_of_cons h
    have hus := ih hrest
    rw [List.count_cons, List.count_cons]
    simp only [List.count_singleton] at hu
    omega

theorem count_braces_of_prefix {start us : List Piece} {stack after : List Bracket}
    (hstart : start <+: us) (h : openAfter stack (marks us) = some after) :
    start.count (.plain '\x7d') ≤ stack.count .brace + start.count (.plain '\x7b') := by
  induction us generalizing stack start with
  | nil => simp [List.prefix_nil.mp hstart]
  | cons u us ih =>
    obtain rfl | ⟨start, rfl, htail⟩ := List.prefix_cons_iff.mp hstart
    · simp
    · obtain ⟨between, hrest, hu⟩ := count_brace_of_cons h
      have hus := ih htail hrest
      rw [List.count_cons, List.count_cons]
      simp only [List.count_singleton] at hu
      omega

theorem WellFormed.of_nested {us : List Piece} (nested : openAfter [] (marks us) = some [])
    (dollarFree : .plain '$' ∉ us) : WellFormed us where
  braces_of_prefix start hstart := by simpa using count_braces_of_prefix hstart nested
  braces := by simpa using count_braces nested
  nested := nested
  dollarFree := dollarFree

/-! ## Sound texts -/

/-- Read where the brackets `before` are open, the text leaves the brackets `after` open, and it has no
dollar sign of its own. -/
def Leaves (before : List Bracket) (text : String) (after : List Bracket) : Prop :=
  ∃ us, pieces? text.toList = some us ∧ openAfter before (marks us) = some after ∧
    .plain '$' ∉ us

/-- A text that closes exactly what it opens. -/
def Sound (text : String) : Prop := Leaves [] text []

/-- The text does not begin with a letter, so that no command before it runs on into it. -/
def StartsAfresh (text : String) : Prop := ∀ c ∈ text.toList.head?, c.isAlpha = false

/-- The text has no command at its end that a letter after it could prolong. -/
def EndsApart (text : String) : Prop := ∃ c ∈ text.toList.getLast?, c.isAlpha = false

instance (text : String) : Decidable (StartsAfresh text) := Option.decidableForallMem _

instance (text : String) : Decidable (EndsApart text) := Option.decidableExistsMem _

instance (before : List Bracket) (text : String) (after : List Bracket) :
    Decidable (Leaves before text after) := Option.decidableExistsMem (pieces? text.toList)

instance (text : String) : Decidable (Sound text) := inferInstanceAs (Decidable (Leaves [] text []))

theorem EndsApart.append {s t : String} (h : EndsApart t) : EndsApart (s ++ t) := by
  obtain ⟨c, hc, hletter⟩ := h
  refine ⟨c, ?_, hletter⟩
  rw [String.toList_append, List.getLast?_append, Option.mem_def.mp hc]
  rfl

theorem leadingLetters_eq_nil {c : Char} {cs : List Char} {us : List Piece}
    (h : pieces? (c :: cs) = some us) (hc : c.isAlpha = false) : leadingLetters us = [] := by
  cases cs with
  | nil =>
    simp only [pieces?] at h
    split at h
    · cases h
    · cases h; simp [leadingLetters, hc]
  | cons d cs =>
    simp only [pieces?] at h
    split at h
    · obtain ⟨us, -, rfl⟩ := Option.map_eq_some_iff.mp h; rfl
    · obtain ⟨us, -, rfl⟩ := Option.map_eq_some_iff.mp h; simp [leadingLetters, hc]

theorem StartsAfresh.leadingLetters_eq_nil {text : String} {us : List Piece} (h : StartsAfresh text)
    (hus : pieces? text.toList = some us) : leadingLetters us = [] := by
  unfold StartsAfresh at h
  cases htext : text.toList with
  | nil => rw [htext] at hus; cases hus; rfl
  | cons c cs => exact Markup.leadingLetters_eq_nil (htext ▸ hus) (h c (by simp [htext]))

def Piece.char : Piece → Char
  | .plain c => c
  | .escaped c => c

theorem getLast?_pieces {cs : List Char} {us : List Piece} (h : pieces? cs = some us) :
    us.getLast?.map Piece.char = cs.getLast? := by
  fun_induction pieces? cs generalizing us with
  | case1 => cases h; rfl
  | case2 => cases h
  | case3 => cases h; rfl
  | case4 d rest ih =>
    obtain ⟨us, hus, rfl⟩ := Option.map_eq_some_iff.mp h
    rw [List.getLast?_cons_cons, List.getLast?_cons, List.getLast?_cons, ← ih hus]
    cases us.getLast? <;> rfl
  | case5 c d rest hc ih =>
    obtain ⟨us, hus, rfl⟩ := Option.map_eq_some_iff.mp h
    rw [List.getLast?_cons_cons, List.getLast?_cons, ← ih hus]
    cases hlast : us.getLast? with
    | none =>
      have := ih hus
      simp [hlast, List.getLast?_cons] at this
    | some u => rfl

/-- A unit with no letter neither prolongs a command nor begins one. -/
theorem marks_cons_of_not_alpha {u : Piece} (us : List Piece) (h : u.char.isAlpha = false) :
    leadingLetters (u :: us) = [] ∧ marks (u :: us) = marks [u] ++ marks us := by
  cases u with
  | plain c => exact ⟨by simp_all [leadingLetters, Piece.char], by simp [marks]⟩
  | escaped c =>
    have hl : c ≠ 'l' := by rintro rfl; exact absurd h (by decide)
    have hr : c ≠ 'r' := by rintro rfl; exact absurd h (by decide)
    exact ⟨rfl, by simp [marks, commandMarks, hl, hr]⟩

theorem EndsApart.marks_append {text : String} {us : List Piece} (h : EndsApart text)
    (hus : pieces? text.toList = some us) (vs : List Piece) :
    marks (us ++ vs) = marks us ++ marks vs := by
  obtain ⟨c, hc, hletter⟩ := h
  rw [← getLast?_pieces hus] at hc
  obtain ⟨u, hu, rfl⟩ := Option.map_eq_some_iff.mp hc
  obtain ⟨us, rfl⟩ := List.getLast?_eq_some_iff.mp hu
  obtain ⟨hnil, hcons⟩ := marks_cons_of_not_alpha vs hletter
  rw [List.append_assoc, List.singleton_append, marks_append_of_nil hnil, hcons,
    marks_append_of_nil (marks_cons_of_not_alpha [] hletter).1, List.append_assoc]

/-- Two texts joined where no command runs across. -/
theorem Leaves.append {a b c : List Bracket} {s t : String} (hs : Leaves a s b) (ht : Leaves b t c)
    (hjoin : EndsApart s ∨ StartsAfresh t) : Leaves a (s ++ t) c := by
  obtain ⟨us, hus, hopen, hdollar⟩ := hs
  obtain ⟨vs, hvs, hopen', hdollar'⟩ := ht
  have hmarks : marks (us ++ vs) = marks us ++ marks vs :=
    hjoin.elim (fun h => h.marks_append hus vs)
      (fun h => marks_append_of_nil (h.leadingLetters_eq_nil hvs))
  refine ⟨us ++ vs, ?_, ?_, by simp [hdollar, hdollar']⟩
  · rw [String.toList_append, pieces?_append hus, hvs]; rfl
  · rw [hmarks, openAfter_append, hopen]; exact hopen'

/-- A sound text stays sound inside open brackets. -/
theorem Sound.leaves {text : String} (h : Sound text) (around : List Bracket) :
    Leaves around text around := by
  obtain ⟨us, hus, hopen, hdollar⟩ := h
  exact ⟨us, hus, by simpa using openAfter_around around hopen, hdollar⟩

theorem Sound.append {s t : String} (hs : Sound s) (ht : Sound t)
    (hjoin : EndsApart s ∨ StartsAfresh t) : Sound (s ++ t) :=
  Leaves.append hs ht hjoin

/-- A sound text between two texts that open and close the same brackets. -/
theorem Sound.between {inner opening closing : String} (h : Sound inner) (opened : List Bracket)
    (hopening : Leaves [] opening opened ∧ EndsApart opening)
    (hclosing : Leaves opened closing [] ∧ StartsAfresh closing) :
    Sound (opening ++ inner ++ closing) :=
  (hopening.1.append (h.leaves opened) (.inl hopening.2)).append hclosing.1 (.inr hclosing.2)

theorem Sound.braced {inner : String} (h : Sound inner) : Sound (braced inner) :=
  h.between [.brace] (by decide) (by decide)

theorem Sound.parens {inner : String} (h : Sound inner) : Sound (parens inner) :=
  h.between [.delimiter] (by decide) (by decide)

theorem Sound.parensIf {inner : String} (h : Sound inner) (needed : Bool) :
    Sound (parensIf needed inner) := by
  cases needed
  · exact h
  · exact h.parens

theorem startsAfresh_braced (inner : String) : StartsAfresh (braced inner) := by
  simp [StartsAfresh, braced]

theorem startsAfresh_parens (inner : String) : StartsAfresh (parens inner) := by
  simp [StartsAfresh, parens]

/-! ## Literals and names -/

/-- A character with no role in reading markup, apart from being a letter. -/
def IsOrdinary (c : Char) : Prop := c ≠ '\\' ∧ c ≠ '\x7b' ∧ c ≠ '\x7d' ∧ c ≠ '$'

instance (c : Char) : Decidable (IsOrdinary c) := inferInstanceAs (Decidable (_ ∧ _))

/-- Ordinary characters open and close nothing, whatever follows them. -/
theorem Sound.ordinary_append {s t : String} (hs : ∀ c ∈ s.toList, IsOrdinary c) (ht : Sound t) :
    Sound (s ++ t) := by
  obtain ⟨us, hus, hopen, hdollar⟩ := ht
  have hpieces : ∀ cs : List Char, (∀ c ∈ cs, IsOrdinary c) → pieces? cs = some (cs.map .plain) := by
    intro cs h
    fun_induction pieces? cs with
    | case1 => rfl
    | case2 => exact absurd rfl (h '\\' (by simp)).1
    | case3 => rfl
    | case4 d rest => exact absurd rfl (h '\\' (by simp)).1
    | case5 c d rest hc ih => rw [ih fun e he => h e (by simp_all)]; rfl
  have hmarks : ∀ cs : List Char, (∀ c ∈ cs, IsOrdinary c) →
      marks (cs.map .plain ++ us) = marks us := by
    intro cs h
    induction cs with
    | nil => rfl
    | cons c cs ih =>
      obtain ⟨-, hopen, hclose, -⟩ := h c (by simp)
      simpa [marks, charMarks, hopen, hclose] using ih fun e he => h e (by simp [he])
  refine ⟨s.toList.map .plain ++ us, ?_, by rw [hmarks _ hs]; exact hopen, ?_⟩
  · rw [String.toList_append, pieces?_append (hpieces _ hs), hus]; rfl
  · simpa [hdollar] using fun h => (hs '$' h).2.2.2 rfl

theorem sound_empty : Sound "" := by decide

theorem sound_of_ordinary {text : String} (h : ∀ c ∈ text.toList, IsOrdinary c) : Sound text := by
  simpa using sound_empty.ordinary_append h

theorem isOrdinary_of_isDigit {c : Char} (h : c.isDigit = true) : IsOrdinary c := by
  refine ⟨?_, ?_, ?_, ?_⟩ <;> rintro rfl <;> exact absurd h (by decide)

theorem sound_literal (x : Float) : Sound (Decimal.Layout.plain.text x) := by
  refine sound_of_ordinary fun c hc => ?_
  rw [Decimal.Layout.text, String.toList_ofList] at hc
  obtain hdigit | hname := Decimal.mem_plain_chars hc
  · exact isOrdinary_of_isDigit hdigit
  · simp only [List.mem_cons, List.not_mem_nil, or_false] at hname
    obtain rfl | rfl | rfl | rfl | rfl | rfl | rfl := hname <;> decide

/-- A character is written as it is, or as a command that ends before the next character. -/
theorem escapeChar_cases (c : Char) :
    (IsOrdinary c ∧ escapeChar c = [c]) ∨
      (Sound (String.ofList (escapeChar c)) ∧ EndsApart (String.ofList (escapeChar c))) := by
  by_cases hspecial : c ∈ ['\\', '\x7b', '\x7d', '_', '%', '$', '&', '#', '^', '~']
  · simp only [List.mem_cons, List.not_mem_nil, or_false] at hspecial
    refine .inr ?_
    obtain rfl | rfl | rfl | rfl | rfl | rfl | rfl | rfl | rfl | rfl := hspecial <;> decide
  · simp only [List.mem_cons, List.not_mem_nil, not_or, or_false] at hspecial
    refine .inl ⟨?_, ?_⟩ <;> simp [IsOrdinary, escapeChar, hspecial]

theorem sound_escape (text : String) : Sound (escape text) := by
  unfold escape
  induction text.toList with
  | nil => exact sound_empty
  | cons c cs ih =>
    have hcons : String.ofList (escapeChars (c :: cs)) =
        String.ofList (escapeChar c) ++ String.ofList (escapeChars cs) := by
      simp [escapeChars]
    rw [hcons]
    obtain ⟨hordinary, hself⟩ | ⟨hsound, hends⟩ := escapeChar_cases c
    · exact ih.ordinary_append (by simpa [hself] using hordinary)
    · exact hsound.append ih (.inl hends)

/-- A text that may be brought into markup as it is. -/
def Harmless (text : String) : Prop :=
  ∃ us, pieces? text.toList = some us ∧ openAfter [] (marks us) = some [] ∧
    .plain '$' ∉ us ∧ .opens .delimiter ∉ marks us ∧ .closes .delimiter ∉ marks us

theorem Harmless.sound {text : String} (h : Harmless text) : Sound text := by
  obtain ⟨us, hus, hopen, hdollar, -, -⟩ := h
  exact ⟨us, hus, hopen, hdollar⟩

/-- The text that a style brings into markup as it is. -/
def command? : Style → Option String
  | .command text => some text
  | _ => none

/-- What the registry brings into markup as it is. -/
structure IsHarmless (registry : Registry Float) : Prop where
  constants : ∀ c ∈ registry.constants, ∀ text ∈ c.markup, Harmless text
  commands : ∀ entry ∈ registry.functions, ∀ text ∈ command? entry.2.style, Harmless text

variable {registry : Registry Float}

theorem sound_greek : ∀ name ∈ greekNames, Sound ("\\" ++ name) := by decide +kernel

theorem IsHarmless.name (h : IsHarmless registry) (name : String) :
    Sound (renderName registry name) := by
  unfold renderName
  split
  case h_1 markup hmarkup =>
    obtain ⟨c, hc, hmarkup⟩ := Option.bind_eq_some_iff.mp hmarkup
    exact (h.constants c (List.mem_of_find?_eq_some hc) markup hmarkup).sound
  case h_2 =>
    split
    case isTrue hgreek => exact sound_greek name (by simpa using hgreek)
    case isFalse =>
      split
      case isTrue => exact sound_escape name
      case isFalse =>
        exact Sound.append (by decide) (sound_escape name).braced (.inr (startsAfresh_braced _))

/-! ## Templates -/

/-- Two sound texts with a separator between them. -/
theorem Sound.joined {l r : String} (hl : Sound l) (separator : String) (hr : Sound r)
    (h : Sound separator ∧ StartsAfresh separator ∧ EndsApart separator) :
    Sound (l ++ separator ++ r) :=
  (hl.append h.1 (.inr h.2.1)).append hr (.inl h.2.2.append)

theorem sound_intercalate {texts : List String} (h : ∀ text ∈ texts, Sound text) :
    Sound (", ".intercalate texts) := by
  induction texts with
  | nil => exact sound_empty
  | cons text rest ih =>
    cases rest with
    | nil => simpa using h text (by simp)
    | cons next rest =>
      rw [String.intercalate_cons_cons]
      exact (h text (by simp)).joined ", " (ih fun t ht => h t (by simp [ht])) (by decide)

theorem sound_operatorForm (name : String) {texts : List String}
    (h : ∀ text ∈ texts, Sound text) : Sound (operatorForm name texts) :=
  (Sound.append (by decide) (sound_escape name).braced (.inr (startsAfresh_braced _))).append
    (sound_intercalate h).parens (.inr (startsAfresh_parens _))

theorem sound_renderBinary (op : BinaryOperator) (left right : Expr Float) {l r : String}
    (hl : Sound l) (hr : Sound r) : Sound (renderBinary op left right l r) := by
  cases op with
  | add => exact hl.joined " + " (hr.parensIf _) (by decide)
  | sub => exact hl.joined " - " (hr.parensIf _) (by decide)
  | mul => exact (hl.parensIf _).joined " \\cdot " (hr.parensIf _) (by decide)
  | div =>
    exact (Sound.append (by decide) hl.braced (.inr (startsAfresh_braced _))).append hr.braced
      (.inr (startsAfresh_braced _))
  | pow => exact (hl.parensIf _).braced.joined "^" hr.braced (by decide)

/-- Every style that does not fit its arguments gives way to the name, so that each template has
exactly the operands it needs. -/
theorem sound_renderFunction {f : Function Float} {args : List (Expr Float)} {texts : List String}
    (hstyle : ∀ text ∈ command? f.style, Harmless text) (h : ∀ text ∈ texts, Sound text) :
    Sound (renderFunction f args texts) := by
  have command {opening inner : String} (hopening : Sound opening) (hinner : Sound inner) :
      Sound (opening ++ braced inner) := hopening.append hinner.braced (.inr (startsAfresh_braced _))
  unfold renderFunction
  split
  case h_1 text hcommand =>
    exact (hstyle text (by rw [hcommand]; rfl)).sound.append (sound_intercalate h).parens
      (.inr (startsAfresh_parens _))
  case h_2 x _ => exact command (by decide) (h x (by simp))
  case h_3 x _ => exact command (by decide) (h x (by simp))
  case h_4 x _ => exact (h x (by simp)).between [.delimiter] (by decide) (by decide)
  case h_5 x _ => exact (h x (by simp)).between [.delimiter] (by decide) (by decide)
  case h_6 x _ => exact (h x (by simp)).between [.delimiter] (by decide) (by decide)
  case h_7 x _ => exact command (by decide) (h x (by simp))
  case h_8 x _ =>
    exact Sound.append (by decide) (h x (by simp)).parens (.inr (startsAfresh_parens _))
  case h_9 x base _ =>
    exact (command (by decide) (h base (by simp))).append (h x (by simp)).parens
      (.inr (startsAfresh_parens _))
  case h_10 arg x _ => exact ((h x (by simp)).parensIf _).append (by decide) (.inr (by decide))
  case h_11 => exact sound_operatorForm f.name h

theorem IsHarmless.integral (h : IsHarmless registry) (name : String) (args : List (Expr Float))
    {texts : List String} (htexts : ∀ text ∈ texts, Sound text) :
    Sound (renderIntegral registry name args texts) := by
  unfold renderIntegral
  split
  case h_1 var _ _ _ body _ lower upper =>
    have hlower : Sound ("\\int_" ++ braced lower) :=
      Sound.append (by decide) (htexts lower (by simp)).braced (.inr (startsAfresh_braced _))
    have hbounds := hlower.joined "^" (htexts upper (by simp)).braced (by decide)
    have hbody := hbounds.joined " " (htexts body (by simp)) (by decide)
    -- The `d` stands in no command, so the name may begin with a letter.
    have hd : Sound ("d" ++ renderName registry var) := (h.name var).ordinary_append (by simp [IsOrdinary])
    have hall := hbody.joined " \\, " hd (by decide)
    have hseparator : " \\, d" = " \\, " ++ "d" := rfl
    simpa only [hseparator, String.append_assoc] using hall
  case h_2 => exact sound_operatorForm name htexts

theorem IsHarmless.call (h : IsHarmless registry) (name : String) (args : List (Expr Float))
    {texts : List String} (htexts : ∀ text ∈ texts, Sound text) :
    Sound (renderCall registry name args texts) := by
  unfold renderCall
  split
  case h_1 f hf =>
    exact sound_renderFunction (h.commands _ (Registry.mem_of_function?_eq_some hf)) htexts
  case h_2 =>
    split
    · exact h.integral name args htexts
    · exact sound_operatorForm name htexts

theorem renderEach_eq_map (args : List (Expr Float)) :
    renderEach registry args = args.map (render registry) := by
  induction args with
  | nil => rfl
  | cons e rest ih => rw [renderEach, ih, List.map_cons]

theorem IsHarmless.sound_render (h : IsHarmless registry) (e : Expr Float) :
    Sound (render registry e) := by
  induction e using Expr.induction with
  | literal value => rw [render]; exact sound_literal value
  | variableRef name offset => rw [render]; exact h.name name
  | unary op operand ih =>
    cases op with
    | neg => rw [render]; exact Sound.append (by decide) (ih.parensIf _) (.inl (by decide))
    | factorial offset => rw [render]; exact (ih.parensIf _).append (by decide) (.inr (by decide))
  | binary op left right ihl ihr => rw [render]; exact sound_renderBinary op left right ihl ihr
  | call name args offset ih =>
    rw [render, renderEach_eq_map]
    refine h.call name args fun text htext => ?_
    obtain ⟨e, he, rfl⟩ := List.mem_map.mp htext
    exact ih e he

theorem pieces?_display {text : String} {us : List Piece} (h : pieces? text.toList = some us) :
    pieces? (display text).toList =
      some ([.plain '$', .plain '$'] ++ us ++ [.plain '$', .plain '$']) := by
  have hdelimiter : pieces? displayDelimiter.toList = some [.plain '$', .plain '$'] := by decide
  rw [display, String.toList_append, String.toList_append, List.append_assoc,
    pieces?_append hdelimiter, pieces?_append h, hdelimiter]
  rfl

/-- Whatever names an expression has, its markup is read to its end, pairs its braces and delimiters,
and has no dollar sign; between display delimiters those are the only ones. -/
theorem render_wellFormed (registry : Registry Float) (h : IsHarmless registry) (e : Expr Float) :
    ∃ us, pieces? (render registry e).toList = some us ∧ WellFormed us ∧
      pieces? (renderDisplay registry e).toList =
        some ([.plain '$', .plain '$'] ++ us ++ [.plain '$', .plain '$']) := by
  obtain ⟨us, hus, hnested, hdollar⟩ := h.sound_render e
  exact ⟨us, hus, .of_nested hnested hdollar, pieces?_display hus⟩

instance (text : String) : Decidable (Harmless text) :=
  Option.decidableExistsMem (pieces? text.toList)

/-- The root of a name that tries to end the display and to open a command. -/
theorem render_wellFormed_full :
    IsHarmless Library.full ∧
      ∃ us, pieces? (render Library.full
          (.call "sqrt" [.variableRef "\x7d$\\left" 0] 0)).toList = some us ∧ WellFormed us ∧
        pieces? (renderDisplay Library.full
            (.call "sqrt" [.variableRef "\x7d$\\left" 0] 0)).toList =
          some ([.plain '$', .plain '$'] ++ us ++ [.plain '$', .plain '$']) := by
  have h : IsHarmless Library.full := ⟨by decide +kernel, by decide +kernel⟩
  exact ⟨h, render_wellFormed Library.full h _⟩

end Reckoner.Markup
