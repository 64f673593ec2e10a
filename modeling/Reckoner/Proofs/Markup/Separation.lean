import Mathlib.Data.List.Induction
import Reckoner.Proofs.Grammar.Unambiguous
import Reckoner.Proofs.Markup.Words
import Reckoner.Library

/-!
# Markup keeps every parenthesis that matters

The tokens that the markup of arithmetic is read as are derived from the grammar of expressions, and what
they derive is the expression itself up to regrouping. As the grammar is unambiguous, expressions with the
same markup differ only in how they are grouped and in offsets.
-/

namespace Reckoner

namespace Grammar.Derivation

variable {α : Type} {l : Level}

/-- A chain that goes on with another one. -/
def followedBy : Derivation α (.links l) → Derivation α (.links l) → Derivation α (.links l)
  | noLink, after => after
  | link op mem offset right rest, after => link op mem offset right (rest.followedBy after)

theorem tokens_followedBy (d after : Derivation α (.links l)) :
    (d.followedBy after).tokens = d.tokens ++ after.tokens := by
  fun_induction followedBy d after with
  | case1 => rfl
  | case2 after op mem offset right rest ih => simp [tokens, ih]

theorem tree_followedBy (d after : Derivation α (.links l)) :
    (d.followedBy after).tree = d.tree ++ after.tree := by
  fun_induction followedBy d after with
  | case1 => rfl
  | case2 after op mem offset right rest ih => simp [tree, ih]

theorem mem_operators_of_mem_tree :
    ∀ d : Derivation α (.links l), ∀ link ∈ d.tree, link.1 ∈ l.operators
  | noLink => List.forall_mem_nil _
  | link _ mem _ _ rest => List.forall_mem_cons.mpr ⟨mem, rest.mem_operators_of_mem_tree⟩

/-- A chain goes on with an operator and what another chain consists of. -/
theorem exists_linked (d : Derivation α (.rule (.chain l))) {op : BinaryOperator}
    (mem : op ∈ l.operators) (next : Derivation α (.rule l.operand)) (more : Derivation α (.links l)) :
    ∃ d' : Derivation α (.rule (.chain l)),
      d'.tokens = d.tokens ++ ⟨.operator op.symbol, 0⟩ :: (next.tokens ++ more.tokens) ∧
        d'.tree = joined (.binary op d.tree next.tree) more.tree := by
  cases d with
  | chain first rest =>
    refine ⟨.chain first (rest.followedBy (.link op mem 0 next more)), ?_, ?_⟩
    · rw [tokens, tokens_followedBy, tokens, tokens, List.append_assoc]
    · rw [tree, tree_followedBy]
      exact List.foldl_append

end Grammar.Derivation

namespace Markup

open Grammar

variable {registry : Registry Float}

/-- What a tree over words shows. -/
inductive Shows (registry : Registry Float) : Expr Empty → Expr Float → Prop where
  | leaf {e : Expr Float} {word : String} (h : IsLeaf registry e) (hword : word = render registry e) :
      Shows registry (.variableRef word 0) e
  | neg {t : Expr Empty} {e : Expr Float} (h : Shows registry t e) :
      Shows registry (.unary .neg t) (.unary .neg e)
  | factorial (offset : Nat) {t : Expr Empty} {e : Expr Float} (h : Shows registry t e) :
      Shows registry (.unary (.factorial 0) t) (.unary (.factorial offset) e)
  | binary {op : BinaryOperator} (hop : op ≠ .div) {t u : Expr Empty} {l r : Expr Float}
      (hl : Shows registry t l) (hr : Shows registry u r) :
      Shows registry (.binary op t u) (.binary op l r)
  | quotient {t u : Expr Empty} {l r : Expr Float} (hl : Shows registry t l)
      (hr : Shows registry u r) : Shows registry (.call "\\frac" [t, u] 0) (.binary .div l r)

/-- A tree over words shows one expression, up to offsets. -/
theorem Shows.regroups {t : Expr Empty} {e e' : Expr Float} (h : Shows registry t e)
    (h' : Shows registry t e') : e.Regroups e' := by
  induction h generalizing e' with
  | leaf h hword =>
    cases h' with
    | leaf h' hword' => exact h.regroups h' (hword.symm.trans hword')
  | neg h ih =>
    cases h' with
    | neg h' => exact .neg (ih h')
  | factorial offset h ih =>
    cases h' with
    | factorial offset' h' => exact .factorial offset offset' (ih h')
  | binary hop hl hr ihl ihr =>
    cases h' with
    | binary hop' hl' hr' => exact .binary _ (ihl hl') (ihr hr')
  | quotient hl hr ihl ihr =>
    cases h' with
    | quotient hl' hr' => exact .binary .div (ihl hl') (ihr hr')

/-- The text is read as tokens that the rule derives, for the expression up to regrouping. -/
def IsTypeset (registry : Registry Float) (r : Rule) (text : String) (e : Expr Float) : Prop :=
  ∃ (d : Derivation Empty (.rule r)) (shown : Expr Float),
    Typesets text d.tokens ∧ Shows registry d.tree shown ∧ shown.Regroups e

/-! ## Rules without a sign -/

section

variable {text : String} {e : Expr Float}

theorem IsTypeset.postfixed (h : IsTypeset registry .primary text e) :
    IsTypeset registry .postfixed text e := by
  obtain ⟨d, shown, htext, hshows, hregroups⟩ := h
  refine ⟨.postfixed d [], shown, ?_, hshows, hregroups⟩
  simpa [Derivation.tokens, markTokens] using htext

theorem IsTypeset.unary (h : IsTypeset registry .postfixed text e) :
    IsTypeset registry .unary text e := by
  obtain ⟨d, shown, htext, hshows, hregroups⟩ := h
  exact ⟨.unsigned d, shown, htext, hshows, hregroups⟩

theorem IsTypeset.factor (h : IsTypeset registry .unary text e) :
    IsTypeset registry .factor text e := by
  obtain ⟨d, shown, htext, hshows, hregroups⟩ := h
  exact ⟨.plain d, shown, htext, hshows, hregroups⟩

theorem IsTypeset.chain {l : Level} (h : IsTypeset registry l.operand text e) :
    IsTypeset registry (.chain l) text e := by
  obtain ⟨d, shown, htext, hshows, hregroups⟩ := h
  refine ⟨.chain d .noLink, shown, ?_, hshows, hregroups⟩
  simpa [Derivation.tokens] using htext

end

/-! ## Signs around operands -/

section

variable {text left right : String} {e l r : Expr Float}

theorem isTypeset_leaf (h : IsLeaf registry e) :
    IsTypeset registry .primary (render registry e) e :=
  ⟨.name (render registry e) 0, e, h.isWord.typesets, .leaf h rfl, .refl e⟩

theorem IsTypeset.parens (h : IsTypeset registry .expr text e) :
    IsTypeset registry .primary (parens text) e := by
  obtain ⟨d, shown, htext, hshows, hregroups⟩ := h
  refine ⟨.group 0 d 0, shown, ?_, hshows, hregroups⟩
  have hleft : Opens "\\left(" (placed [.leftParen]) := opens_of_mem_signs (by decide) (by decide)
  have hright : Opens "\\right)" (placed [.rightParen]) := opens_of_mem_signs (by decide) (by decide)
  have hinner := (hleft.append_typesets htext).append hright.typesets (by decide)
  exact hinner

theorem IsTypeset.negated (h : IsTypeset registry .primary text e) :
    IsTypeset registry .unary ("-" ++ text) (.unary .neg e) := by
  obtain ⟨d, shown, htext, hshows, hregroups⟩ := h.postfixed
  refine ⟨.negated 0 d, .unary .neg shown, ?_, .neg hshows, .neg hregroups⟩
  have hsign : Opens "-" (placed [.operator '-']) := opens_of_mem_signs (by decide) (by decide)
  exact hsign.append_typesets htext

theorem IsTypeset.marked (offset : Nat) (h : IsTypeset registry .primary text e) :
    IsTypeset registry .postfixed (text ++ "!") (.unary (.factorial offset) e) := by
  obtain ⟨d, shown, htext, hshows, hregroups⟩ := h
  refine ⟨.postfixed d [0], .unary (.factorial offset) shown, ?_, .factorial offset hshows,
    .factorial offset offset hregroups⟩
  have hmark : Opens "!" (placed [.operator '!']) := opens_of_mem_signs (by decide) (by decide)
  exact htext.append hmark.typesets (by decide)

theorem fraction_text (left right : String) :
    "\\frac" ++ braced left ++ braced right =
      "\\frac\x7b" ++ left ++ "\x7d\x7b" ++ right ++ "\x7d" :=
  String.toList_inj.mp (by simp [braced])

theorem power_text (left right : String) :
    braced left ++ "^" ++ braced right =
      "\x7b" ++ left ++ "\x7d^\x7b" ++ right ++ "\x7d" :=
  String.toList_inj.mp (by simp [braced])

theorem IsTypeset.quotient (hl : IsTypeset registry .expr left l)
    (hr : IsTypeset registry .expr right r) :
    IsTypeset registry .primary ("\\frac" ++ braced left ++ braced right) (.binary .div l r) := by
  obtain ⟨dl, shownLeft, hleft, hshowsLeft, hregroupsLeft⟩ := hl
  obtain ⟨dr, shownRight, hright, hshowsRight, hregroupsRight⟩ := hr
  refine ⟨.call "\\frac" 0 0 (.arguments dl (.more 0 dr .noMore)) 0, .binary .div shownLeft shownRight,
    ?_, .quotient hshowsLeft hshowsRight, .binary .div hregroupsLeft hregroupsRight⟩
  have hfrac : Opens "\\frac\x7b" (placed [.identifier "\\frac", .leftParen]) :=
    opens_of_mem_signs (by decide) (by decide)
  have hnext : Opens "\x7d\x7b" (placed [.comma]) := opens_of_mem_signs (by decide) (by decide)
  have hall := (((hfrac.append_typesets hleft).append_opens hnext (by decide)).append_typesets
    hright).append typesets_closingBrace (by decide)
  rw [fraction_text]
  simpa [Derivation.tokens, placed] using hall

theorem IsTypeset.power (hl : IsTypeset registry .expr left l)
    (hr : IsTypeset registry .expr right r) :
    IsTypeset registry .factor (braced left ++ "^" ++ braced right) (.binary .pow l r) := by
  obtain ⟨dl, shownLeft, hleft, hshowsLeft, hregroupsLeft⟩ := hl
  obtain ⟨dr, shownRight, hright, hshowsRight, hregroupsRight⟩ := hr
  refine ⟨.power (.unsigned (.postfixed (.group 0 dl 0) [])) 0
      (.plain (.unsigned (.postfixed (.group 0 dr 0) []))), .binary .pow shownLeft shownRight,
    ?_, .binary (by decide) hshowsLeft hshowsRight, .binary .pow hregroupsLeft hregroupsRight⟩
  have hopen : Opens "\x7b" (placed [.leftParen]) := opens_of_mem_signs (by decide) (by decide)
  have hnext : Opens "\x7d^\x7b" (placed [.rightParen, .operator '^', .leftParen]) :=
    opens_of_mem_signs (by decide) (by decide)
  have hall := (((hopen.append_typesets hleft).append_opens hnext (by decide)).append_typesets
    hright).append typesets_closingBrace (by decide)
  rw [power_text]
  simpa [Derivation.tokens, placed, markTokens] using hall

end

/-! ## Chains -/

/-- The operation in front of a chain of the level may as well be carried out first. -/
def Regroupable (op : BinaryOperator) (level : Level) : Prop :=
  ∀ inner ∈ level.operators, inner ≠ .div → ∀ a b c : Expr Float,
    (Expr.binary op a (.binary inner b c)).Regroups (.binary inner (.binary op a b) c)

theorem regroupable_add : Regroupable .add .sum := by
  intro inner hinner _ a b c
  obtain rfl | rfl := List.mem_pair.mp hinner
  · exact .addAdd a b c
  · exact .addSub a b c

theorem regroupable_mul : Regroupable .mul .product := by
  intro inner hinner hdiv a b c
  obtain rfl | rfl := List.mem_pair.mp hinner
  · exact .mulMul a b c
  · exact absurd rfl hdiv

theorem joined_concat {α : Type} (left : Expr α) (links : List (BinaryOperator × Expr α))
    (link : BinaryOperator × Expr α) :
    joined left (links ++ [link]) = .binary link.1 (joined left links) link.2 :=
  List.foldl_concat _ _ _ _

/-- An operand in front of a chain shows what it shows in front of the first link only. -/
theorem Shows.joined {op : BinaryOperator} {level : Level} (hop : op ≠ .div)
    (hregroup : Regroupable op level) {t first : Expr Empty} {a b : Expr Float}
    {links : List (BinaryOperator × Expr Empty)} (hlinks : ∀ link ∈ links, link.1 ∈ level.operators)
    (hleft : Shows registry t a) (hright : Shows registry (joined first links) b) :
    ∃ c, Shows registry (joined (.binary op t first) links) c ∧ c.Regroups (.binary op a b) := by
  induction links using List.reverseRecOn generalizing b with
  | nil => exact ⟨_, .binary hop hleft hright, .refl _⟩
  | append_singleton links link ih =>
    obtain ⟨hlinks, hlink⟩ := List.forall_mem_append.mp hlinks
    rw [joined_concat] at hright ⊢
    cases hright with
    | @binary _ hinner _ _ b' d hb' hd =>
      obtain ⟨c, hc, hregroups⟩ := ih hlinks hb'
      refine ⟨.binary link.1 c d, .binary hinner hc hd, ?_⟩
      exact (Expr.Regroups.binary link.1 hregroups (.refl d)).trans
        (hregroup link.1 (hlink link List.mem_cons_self) hinner a b' d).symm

section

variable {level : Level} {op : BinaryOperator} {left right sign : String} {l r : Expr Float}

/-- A chain with one more operand. -/
theorem IsTypeset.link (mem : op ∈ level.operators) (hop : op ≠ .div)
    (hsign : Opens sign (placed [.operator op.symbol])) (hends : endsWord sign = true)
    (hl : IsTypeset registry (.chain level) left l)
    (hr : IsTypeset registry level.operand right r) :
    IsTypeset registry (.chain level) (left ++ sign ++ right) (.binary op l r) := by
  obtain ⟨dl, shownLeft, hleft, hshowsLeft, hregroupsLeft⟩ := hl
  obtain ⟨dr, shownRight, hright, hshowsRight, hregroupsRight⟩ := hr
  obtain ⟨d, htokens, htree⟩ := dl.exists_linked mem dr .noLink
  refine ⟨d, .binary op shownLeft shownRight, ?_, ?_, .binary op hregroupsLeft hregroupsRight⟩
  · have hall := (hleft.append_opens hsign hends).append_typesets hright
    rw [htokens]
    simpa [Derivation.tokens, placed] using hall
  · rw [htree]
    exact .binary hop hshowsLeft hshowsRight

/-- Two chains, the second of which need not stand in parentheses. -/
theorem IsTypeset.chains (mem : op ∈ level.operators) (hop : op ≠ .div)
    (hregroup : Regroupable op level) (hsign : Opens sign (placed [.operator op.symbol]))
    (hends : endsWord sign = true) (hl : IsTypeset registry (.chain level) left l)
    (hr : IsTypeset registry (.chain level) right r) :
    IsTypeset registry (.chain level) (left ++ sign ++ right) (.binary op l r) := by
  obtain ⟨dl, shownLeft, hleft, hshowsLeft, hregroupsLeft⟩ := hl
  obtain ⟨dr, shownRight, hright, hshowsRight, hregroupsRight⟩ := hr
  cases dr with
  | chain next more =>
    obtain ⟨d, htokens, htree⟩ := dl.exists_linked mem next more
    obtain ⟨shown, hshows, hregroups⟩ :=
      Shows.joined hop hregroup more.mem_operators_of_mem_tree hshowsLeft hshowsRight
    refine ⟨d, shown, ?_, htree ▸ hshows, hregroups.trans (.binary op hregroupsLeft hregroupsRight)⟩
    have hall := (hleft.append_opens hsign hends).append_typesets hright
    rw [htokens]
    simpa [Derivation.tokens, placed] using hall

end

/-! ## Expressions -/

section

variable {text : String} {e : Expr Float}

theorem IsTypeset.term (h : IsTypeset registry .factor text e) : IsTypeset registry .term text e :=
  IsTypeset.chain h

theorem IsTypeset.expr (h : IsTypeset registry .term text e) : IsTypeset registry .expr text e :=
  IsTypeset.chain h

/-- The rules that derive the markup of an expression in each kind of place. -/
structure Typeset (registry : Registry Float) (e : Expr Float) : Prop where
  primary : e.isAtomic = true → IsTypeset registry .primary (render registry e) e
  term : isAdditive e = false → IsTypeset registry .term (render registry e) e
  expr : IsTypeset registry .expr (render registry e) e

theorem typeset_of_primary (h : IsTypeset registry .primary (render registry e) e) :
    Typeset registry e :=
  have hterm := h.postfixed.unary.factor.term
  ⟨fun _ => h, fun _ => hterm, hterm.expr⟩

theorem typeset_of_term (hatomic : e.isAtomic = false)
    (h : IsTypeset registry .term (render registry e) e) : Typeset registry e :=
  ⟨fun hatomic' => absurd (hatomic.symm.trans hatomic') Bool.false_ne_true, fun _ => h, h.expr⟩

theorem typeset_of_expr (hatomic : e.isAtomic = false) (hadditive : isAdditive e = true)
    (h : IsTypeset registry .expr (render registry e) e) : Typeset registry e :=
  ⟨fun hatomic' => absurd (hatomic.symm.trans hatomic') Bool.false_ne_true,
    fun hadditive' => absurd (hadditive'.symm.trans hadditive) Bool.false_ne_true, h⟩

theorem Typeset.grouped (h : Typeset registry e) :
    IsTypeset registry .primary (parensIf (!e.isAtomic) (render registry e)) e := by
  cases hatomic : e.isAtomic with
  | true => exact h.primary hatomic
  | false => exact h.expr.parens

theorem Typeset.asTerm (h : Typeset registry e) {needed : Bool}
    (hneeded : needed = false → isAdditive e = false) :
    IsTypeset registry .term (parensIf needed (render registry e)) e := by
  cases needed with
  | true => exact h.expr.parens.postfixed.unary.factor.term
  | false => exact h.term (hneeded rfl)

theorem Typeset.asExpr (h : Typeset registry e) (needed : Bool) :
    IsTypeset registry .expr (parensIf needed (render registry e)) e := by
  cases needed with
  | true => exact h.expr.parens.postfixed.unary.factor.term.expr
  | false => exact h.expr

end

/-- One case for each kind of operation: what stands around its operands is what the grammar needs to
tell them apart, but for the right operands of sums and products. -/
theorem IsComposed.typeset {e : Expr Float} (h : IsComposed registry e) : Typeset registry e := by
  induction h with
  | leaf h => exact typeset_of_primary (isTypeset_leaf h)
  | @unary op operand h ih =>
    cases op with
    | neg =>
      refine typeset_of_term rfl ?_
      rw [render]
      exact ih.grouped.negated.factor.term
    | factorial offset =>
      refine typeset_of_term rfl ?_
      rw [render]
      exact (ih.grouped.marked offset).unary.factor.term
  | @binary op l r hl hr ihl ihr =>
    have sign {c : Char} {text : String} (hmem : (text.toList, [.operator c]) ∈ signs)
        (hne : text.toList ≠ ['\x7d']) : Opens text (placed [.operator c]) :=
      opens_of_mem_signs hmem hne
    cases op with
    | add =>
      refine typeset_of_expr rfl rfl ?_
      rw [render]
      exact ihl.expr.chains (by decide) (by decide) regroupable_add (sign (by decide) (by decide))
        (by decide) (ihr.asExpr (isNegation r))
    | sub =>
      refine typeset_of_expr rfl rfl ?_
      have hright : IsTypeset registry .term
          (parensIf (isNegation r || isAdditive r) (render registry r)) r :=
        ihr.asTerm fun hneeded => (Bool.or_eq_false_iff.mp hneeded).2
      rw [render]
      exact ihl.expr.link (by decide) (by decide) (sign (by decide) (by decide)) (by decide) hright
    | mul =>
      refine typeset_of_term rfl ?_
      have hright : IsTypeset registry .term
          (parensIf (isAdditive r || isNegation r) (render registry r)) r :=
        ihr.asTerm fun hneeded => (Bool.or_eq_false_iff.mp hneeded).1
      rw [render]
      exact (ihl.asTerm id).chains (by decide) (by decide) regroupable_mul
        (sign (by decide) (by decide)) (by decide) hright
    | div =>
      refine typeset_of_term rfl ?_
      rw [render]
      exact (ihl.expr.quotient ihr.expr).postfixed.unary.factor.term
    | pow =>
      refine typeset_of_term rfl ?_
      rw [render]
      exact ((ihl.asExpr (!l.isAtomic)).power ihr.expr).term

/-- Expressions with the same markup are equal up to offsets and regrouping. -/
theorem IsComposed.regroups {e e' : Expr Float} (h : IsComposed registry e)
    (h' : IsComposed registry e') (hrender : render registry e = render registry e') :
    e.Regroups e' := by
  obtain ⟨d, shown, htext, hshows, hregroups⟩ := h.typeset.expr
  obtain ⟨d', shown', htext', hshows', hregroups'⟩ := h'.typeset.expr
  have htokens : d.tokens = d'.tokens := htext.readsAs.unique (hrender ▸ htext'.readsAs)
  obtain rfl : d = d' := Derivation.tokens_injective _ htokens
  exact (hregroups.symm.trans (hshows.regroups hshows')).trans hregroups'

/-- The markup of arithmetic drops no parenthesis that matters: trees that parsing returns and that have
the same markup differ in no more than offsets and regrouping, and have the same value in exact arithmetic
whatever their names stand for. -/
theorem render_separates {source source' : String} {e e' : Expr Float}
    (he : Expr.parse source = .ok e) (he' : Expr.parse source' = .ok e')
    (harithmetic : e.IsArithmetic fun name => registry.constant? name = none)
    (harithmetic' : e'.IsArithmetic fun name => registry.constant? name = none)
    (hrender : render registry e = render registry e') :
    e.Regroups e' ∧
      ∀ {K : Type} [Elementary K] [Field K] [LinearOrder K] [FloorRing K] (number : Float → K)
        (functions : Registry K) (env : Environment K),
        Expr.value? functions env (e.map number) = Expr.value? functions env (e'.map number) := by
  have hregroups : e.Regroups e' :=
    (isComposed_of_parse he harithmetic).regroups (isComposed_of_parse he' harithmetic') hrender
  refine ⟨hregroups, fun number functions env => ?_⟩
  exact (hregroups.map number).value?_eq functions env

/-- The difference on the right of a sum is one that needs no parentheses. -/
theorem render_separates_differenceAtRight :
    ∃ e e' : Expr Float, Expr.parse "a+(b-2)" = .ok e ∧ Expr.parse "(a+b)-2" = .ok e' ∧ e ≠ e' ∧
      e.Regroups e' ∧ ∀ (number : Float → ℚ) (env : Environment ℚ),
        Expr.value? .empty env (e.map number) = Expr.value? .empty env (e'.map number) := by
  let two : Expr Float := .literal (Decimal.toFloat ⟨2, 0⟩)
  have he : Expr.parse "a+(b-2)" =
      .ok (.binary .add (.variableRef "a" 0) (.binary .sub (.variableRef "b" 3) two)) := by
    with_unfolding_all rfl
  have he' : Expr.parse "(a+b)-2" =
      .ok (.binary .sub (.binary .add (.variableRef "a" 1) (.variableRef "b" 3)) two) := by
    with_unfolding_all rfl
  have free : (Library.full.constant? "a" = none) ∧ Library.full.constant? "b" = none := by
    decide +kernel
  have h := render_separates he he' ⟨free.1, free.2, trivial⟩ ⟨⟨free.1, free.2⟩, trivial⟩ rfl
  exact ⟨_, _, he, he', by simp, h.1, fun number env => h.2 number .empty env⟩

end Markup

end Reckoner
