import Reckoner.Proofs.Decimal.Positional
import Reckoner.Proofs.Grammar
import Reckoner.Markup

/-!
# Reading arithmetic back from its markup

Markup of arithmetic consists of signs and words. Read from left to right it becomes tokens of the
grammar: a fraction is a call of `\frac`, the braces of a power are parentheses, and every word, which
is a literal or a name, is an identifier. A word ends before the next sign.
-/

namespace Reckoner.Markup

/-- The signs, each with what it stands for. -/
def signs : List (List Char × List (Lexeme Empty)) :=
  [("\\frac\x7b".toList, [.identifier "\\frac", .leftParen]),
    ("\x7d\x7b".toList, [.comma]),
    ("\x7d^\x7b".toList, [.rightParen, .operator '^', .leftParen]),
    ("\x7d".toList, [.rightParen]),
    ("\x7b".toList, [.leftParen]),
    ("\\left(".toList, [.leftParen]),
    ("\\right)".toList, [.rightParen]),
    (" + ".toList, [.operator '+']),
    (" - ".toList, [.operator '-']),
    (" \\cdot ".toList, [.operator '*']),
    ("-".toList, [.operator '-']),
    ("!".toList, [.operator '!'])]

/-- What an upright name begins with. It ends with a brace. -/
def upright : List Char := "\\mathrm\x7b".toList

/-- Characters with which a sign may begin after a word. -/
def delimiters : List Char := [' ', '!', '\x7d', '\\']

/-- The length of the word at the start of a text. -/
def wordLength (cs : List Char) : Nat :=
  if upright.isPrefixOf cs then (cs.takeWhile (· != '\x7d')).length + 1
  else (cs.tail.takeWhile fun c => !delimiters.contains c).length + 1

/-- The sign or word at the start of a text, and what follows it. -/
def readUnit (cs : List Char) : List (Lexeme Empty) × List Char :=
  match signs.find? fun sign => sign.1.isPrefixOf cs with
  | some sign => (sign.2, cs.drop sign.1.length)
  | none =>
    ([.identifier (String.ofList (cs.take (wordLength cs)))], cs.drop (wordLength cs))

/-- Lexemes without a place in a source. -/
def placed (kinds : List (Lexeme Empty)) : List (Token Empty) := kinds.map fun kind => ⟨kind, 0⟩

/-- The tokens of a text. -/
inductive ReadsAs : List Char → List (Token Empty) → Prop where
  | done : ReadsAs [] []
  | unit {cs : List Char} {ts : List (Token Empty)} (ne : cs ≠ [])
      (rest : ReadsAs (readUnit cs).2 ts) : ReadsAs cs (placed (readUnit cs).1 ++ ts)

theorem ReadsAs.unique {cs : List Char} {ts us : List (Token Empty)} (h : ReadsAs cs ts)
    (h' : ReadsAs cs us) : ts = us := by
  induction h generalizing us with
  | done =>
    cases h' with
    | done => rfl
    | unit ne => exact absurd rfl ne
  | unit ne rest ih =>
    cases h' with
    | done => exact absurd rfl ne
    | unit _ rest' => rw [ih rest']

/-! ## Signs -/

/-- The text is read as the tokens, whatever follows. -/
def Opens (text : String) (ts : List (Token Empty)) : Prop :=
  ∀ ⦃rest us⦄, ReadsAs rest us → ReadsAs (text.toList ++ rest) (ts ++ us)

/-- No text that ends in a word runs on into the rest. -/
def Delimited (rest : List Char) : Prop := ∀ c ∈ rest.head?, c ∈ delimiters

/-- The text is read as the tokens when a sign follows or nothing. -/
def Typesets (text : String) (ts : List (Token Empty)) : Prop :=
  ∀ ⦃rest us⦄, Delimited rest → ReadsAs rest us → ReadsAs (text.toList ++ rest) (ts ++ us)

theorem Opens.typesets {text : String} {ts : List (Token Empty)} (h : Opens text ts) :
    Typesets text ts :=
  fun _ _ _ hrest => h hrest

theorem Typesets.readsAs {text : String} {ts : List (Token Empty)} (h : Typesets text ts) :
    ReadsAs text.toList ts := by
  have hnone : Delimited [] := by simp [Delimited]
  have hend := h hnone .done
  rwa [List.append_nil, List.append_nil] at hend

theorem Opens.append_typesets {s t : String} {ts us : List (Token Empty)} (hs : Opens s ts)
    (ht : Typesets t us) : Typesets (s ++ t) (ts ++ us) := by
  intro rest vs hdelimited hrest
  rw [String.toList_append, List.append_assoc, List.append_assoc]
  exact hs (ht hdelimited hrest)

/-- A word in front of the text would end before it. -/
def endsWord (text : String) : Bool := (text.toList.head?.map delimiters.contains).getD false

theorem delimited_of_endsWord {text : String} (h : endsWord text = true) (rest : List Char) :
    Delimited (text.toList ++ rest) := by
  unfold endsWord at h
  intro c hc
  cases htext : text.toList with
  | nil =>
    rw [htext] at h
    cases h
  | cons d ds =>
    rw [htext] at h hc
    cases hc
    simpa using h

theorem Typesets.append_opens {s t : String} {ts us : List (Token Empty)} (hs : Typesets s ts)
    (ht : Opens t us) (hends : endsWord t = true) : Opens (s ++ t) (ts ++ us) := by
  intro rest vs hrest
  rw [String.toList_append, List.append_assoc, List.append_assoc]
  exact hs (delimited_of_endsWord hends rest) (ht hrest)

theorem Typesets.append {s t : String} {ts us : List (Token Empty)} (hs : Typesets s ts)
    (ht : Typesets t us) (hends : endsWord t = true) : Typesets (s ++ t) (ts ++ us) := by
  intro rest vs hdelimited hrest
  rw [String.toList_append, List.append_assoc, List.append_assoc]
  exact hs (delimited_of_endsWord hends rest) (ht hdelimited hrest)

theorem ReadsAs.of_readUnit {cs rest : List Char} {kinds : List (Lexeme Empty)}
    {us : List (Token Empty)} (ne : cs ≠ []) (hread : readUnit cs = (kinds, rest))
    (h : ReadsAs rest us) : ReadsAs cs (placed kinds ++ us) := by
  have hunit : ReadsAs (readUnit cs).2 us → ReadsAs cs (placed (readUnit cs).1 ++ us) := .unit ne
  rw [hread] at hunit
  exact hunit h

/-- A sign is read whatever follows, except for a brace that could also end the first argument of a
fraction or the base of a power. -/
theorem readUnit_sign {sign : List Char × List (Lexeme Empty)} (h : sign ∈ signs)
    (hne : sign.1 ≠ ['\x7d']) (rest : List Char) : readUnit (sign.1 ++ rest) = (sign.2, rest) := by
  simp only [signs, List.mem_cons, List.not_mem_nil, or_false] at h
  obtain rfl | rfl | rfl | rfl | rfl | rfl | rfl | rfl | rfl | rfl | rfl | rfl := h
  case inr.inr.inr.inl => exact absurd rfl hne
  all_goals rfl

theorem sign_ne_nil {sign : List Char × List (Lexeme Empty)} (h : sign ∈ signs) : sign.1 ≠ [] := by
  revert sign
  decide

theorem opens_of_mem_signs {text : String} {kinds : List (Lexeme Empty)}
    (h : (text.toList, kinds) ∈ signs) (hne : text.toList ≠ ['\x7d']) : Opens text (placed kinds) := by
  intro rest us hrest
  refine .of_readUnit (List.append_ne_nil_of_left_ne_nil (sign_ne_nil h) rest) ?_ hrest
  exact readUnit_sign h hne rest

theorem typesets_closingBrace : Typesets "\x7d" (placed [.rightParen]) := by
  intro rest us hdelimited hrest
  refine .of_readUnit (List.cons_ne_nil _ _) ?_ hrest
  cases rest with
  | nil => rfl
  | cons c rest =>
    have hc : c ∈ delimiters := hdelimited c rfl
    simp only [delimiters, List.mem_cons, List.not_mem_nil, or_false] at hc
    obtain rfl | rfl | rfl | rfl := hc <;> rfl

/-! ## Words -/

/-- The texts differ before either of them ends. -/
def differ : List Char → List Char → Bool
  | c :: cs, d :: ds => c != d || differ cs ds
  | _, _ => false

theorem isPrefixOf_append_eq_false {sign word : List Char} (h : differ sign word = true)
    (rest : List Char) : sign.isPrefixOf (word ++ rest) = false := by
  fun_induction differ sign word with
  | case1 c cs d ds ih =>
    rw [Bool.or_eq_true, bne_iff_ne] at h
    rw [List.cons_append, List.isPrefixOf_cons_cons, Bool.and_eq_false_iff, beq_eq_false_iff_ne]
    exact h.imp_right ih
  | case2 => cases h

theorem differ_append {sign word : List Char} (h : differ sign word = true) (rest : List Char) :
    differ sign (word ++ rest) = true := by
  fun_induction differ sign word with
  | case1 c cs d ds ih =>
    rw [Bool.or_eq_true] at h
    rw [List.cons_append, differ, Bool.or_eq_true]
    exact h.imp_right ih
  | case2 => cases h

/-- The text is one word: it begins like no sign, and ends before the first delimiter or, when it is an
upright name, with the first closing brace. -/
inductive IsWord : List Char → Prop where
  | run {word : List Char} (apart : ∀ sign ∈ upright :: signs.map Prod.fst, differ sign word = true)
      (inside : ∀ c ∈ word.tail, c ∉ delimiters) : IsWord word
  | enclosed {name : List Char} (inside : '\x7d' ∉ name) : IsWord (upright ++ name ++ ['\x7d'])

theorem IsWord.apart {word : List Char} (h : IsWord word) :
    ∀ sign ∈ signs, differ sign.1 word = true := by
  intro sign hsign
  cases h with
  | run apart => exact apart _ (List.mem_cons_of_mem _ (List.mem_map_of_mem hsign))
  | enclosed =>
    have hupright : ∀ sign ∈ signs, differ sign.1 upright = true := by decide
    rw [List.append_assoc]
    exact differ_append (hupright sign hsign) _

theorem IsWord.ne_nil {word : List Char} (h : IsWord word) : word ≠ [] := by
  rintro rfl
  exact absurd (h.apart _ List.mem_cons_self) (by decide)

theorem IsWord.wordLength_append {word : List Char} (h : IsWord word) {rest : List Char}
    (hdelimited : Delimited rest) : wordLength (word ++ rest) = word.length := by
  have hne := h.ne_nil
  cases h with
  | run apart inside =>
    have hupright : upright.isPrefixOf (word ++ rest) = false :=
      isPrefixOf_append_eq_false (apart _ List.mem_cons_self) rest
    rw [wordLength, hupright, if_neg Bool.false_ne_true]
    cases word with
    | nil => exact absurd rfl hne
    | cons c word =>
      have htail : (word ++ rest).takeWhile (fun c => !delimiters.contains c) = word := by
        refine Text.takeWhile_append_of_stop (fun d hd => ?_) fun d hd => ?_
        · simpa using inside d hd
        · simpa using hdelimited d hd
      rw [List.cons_append, List.tail_cons, htail, List.length_cons]
  | @enclosed name inside =>
    have hupright : upright.isPrefixOf (upright ++ name ++ ['\x7d'] ++ rest) = true := by
      rw [List.isPrefixOf_iff_prefix, List.append_assoc, List.append_assoc]
      exact List.prefix_append _ _
    have hopen : '\x7d' ∉ upright := by decide
    have hname : (upright ++ name ++ ['\x7d'] ++ rest).takeWhile (· != '\x7d') = upright ++ name := by
      rw [List.append_assoc]
      refine Text.takeWhile_append_of_stop (fun c hc => ?_) fun c hc => ?_
      · rw [bne_iff_ne]
        rintro rfl
        exact (List.mem_append.mp hc).elim hopen inside
      · cases hc
        rfl
    have hlength : (upright ++ name ++ ['\x7d']).length = (upright ++ name).length + 1 :=
      List.length_append
    rw [wordLength, hupright, if_pos rfl, hname, hlength]

theorem IsWord.typesets {text : String} (h : IsWord text.toList) :
    Typesets text (placed [.identifier text]) := by
  intro rest us hdelimited hrest
  have hsigns : signs.find? (fun sign => sign.1.isPrefixOf (text.toList ++ rest)) = none := by
    rw [List.find?_eq_none]
    intro sign hsign
    rw [isPrefixOf_append_eq_false (h.apart sign hsign) rest]
    exact Bool.false_ne_true
  refine .of_readUnit (List.append_ne_nil_of_left_ne_nil h.ne_nil rest) ?_ hrest
  rw [readUnit, hsigns]
  dsimp only
  rw [h.wordLength_append hdelimited, List.take_left', List.drop_left', String.ofList_toList]
  · rfl
  · rfl

end Reckoner.Markup
