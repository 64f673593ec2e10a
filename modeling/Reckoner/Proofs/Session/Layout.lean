import Reckoner.Calculator
import Reckoner.Proofs.Grammar.Layout
import Reckoner.Proofs.Markup.WellFormed
import Reckoner.Proofs.Meaning.Agreement

/-!
# Layout does not matter

Blanks between tokens, glyphs of operators and spellings of numbers change the tokens of a source in
their offsets alone. They decide nothing: not what is read, not its value, not its markup, and not why
it fails.
-/

namespace Reckoner

open Answer

namespace Expr

/-! ## Meaning -/

theorem areIntegral_of_map_unplaced {α : Type} {args : List (Expr α)} (h : AreIntegral (args.map unplaced)) :
    AreIntegral args := by
  refine h.of_map fun e v place he => ?_
  cases e with
  | variableRef name offset => exact ⟨name, offset, rfl⟩
  | literal value => cases he
  | unary op operand => cases he
  | binary op left right => cases he
  | call name args offset => cases he

section

variable {α : Type} [Scalar α] {registry : Registry α} {env : Environment α}

theorem quadrature_matches {f g : α → Answer α α}
    (h : ∀ t, (f t).Matches (· = ·) Failure.Alike (g t)) (lo hi : α) :
    (Simpson.quadrature f lo hi).Matches (· = ·) Failure.Alike (Simpson.quadrature g lo hi) := by
  have hsamples := Matches.mapM (List.range (integrationIntervals + 1)) fun (i : Nat) _ =>
    h (lo + (hi - lo) / (integrationIntervals : α) * (i : α))
  apply hsamples.bind
  intro samples samples' _ _ heq
  refine .ok ?_
  rw [heq]

theorem meanings_matches {args : List (Expr α)}
    (h : ∀ e ∈ args, (meaning registry e env).Matches (· = ·) Failure.Alike
      (meaning registry e.unplaced env)) :
    (meanings registry args env).Matches (· = ·) Failure.Alike
      (meanings registry (args.map unplaced) env) := by
  induction args with
  | nil => exact .ok rfl
  | cons e rest ih =>
    obtain ⟨he, hrest⟩ := List.forall_mem_cons.mp h
    rw [List.map_cons, meanings, meanings]
    apply he.bind
    intro x x' _ _ hx
    apply (ih hrest).bind
    intro xs xs' _ _ hxs
    refine .ok ?_
    rw [hx, hxs]

theorem meaning_integral_matches {name : String} (special : isIntegral registry name = true)
    {args : List (Expr α)} {offset : Nat}
    (ih : ∀ e ∈ args, ∀ env, (meaning registry e env).Matches (· = ·) Failure.Alike
      (meaning registry e.unplaced env)) :
    (meaning registry (call name args offset) env).Matches (· = ·) Failure.Alike
      (meaning registry (call name (args.map unplaced) 0) env) := by
  by_cases hargs : AreIntegral args
  · obtain ⟨body, v, place, lower, upper⟩ := hargs
    simp only [List.map_cons, List.map_nil, unplaced]
    rw [meaning_integral special, meaning_integral special]
    apply (ih lower (by simp) env).bind
    intro lo lo' _ _ hlo
    apply (ih upper (by simp) env).bind
    intro hi hi' _ _ hhi
    rw [hlo, hhi]
    exact quadrature_matches (fun t => ih body (by simp) (env.extend v t)) lo' hi'
  · rw [meaning_malformedIntegral special hargs,
      meaning_malformedIntegral special fun hmap => hargs (areIntegral_of_map_unplaced hmap),
      List.length_map]
    split <;> exact .error rfl

/-- An expression means the same without offsets, or fails for the same reason. -/
theorem meaning_unplaced_matches (registry : Registry α) (e : Expr α) (env : Environment α) :
    (meaning registry e env).Matches (· = ·) Failure.Alike (meaning registry e.unplaced env) := by
  induction e using Expr.induction generalizing env with
  | literal value => exact .ok rfl
  | variableRef name offset =>
    rw [unplaced, meaning, meaning]
    cases env name with
    | none => exact .error rfl
    | some x => exact .ok rfl
  | unary op operand ih =>
    rw [unplaced]
    cases op with
    | neg =>
      rw [UnaryOperator.unplaced, meaning, meaning]
      exact (ih env).bind fun x x' _ _ hx => .ok (congrArg _ hx)
    | factorial offset =>
      rw [UnaryOperator.unplaced, meaning, meaning]
      apply (ih env).bind
      intro x x' _ _ hx
      rw [hx]
      exact matches_locate _ _ _
  | binary op left right ihLeft ihRight =>
    rw [unplaced, meaning, meaning]
    apply (ihLeft env).bind
    intro x x' _ _ hx
    apply (ihRight env).bind
    intro y y' _ _ hy
    refine .ok ?_
    rw [hx, hy]
  | call name args offset ih =>
    rw [unplaced, unplacedEach_eq_map]
    cases special : isIntegral registry name with
    | true => exact meaning_integral_matches special fun e he env => ih e he env
    | false =>
      rw [meaning_of_not_integral special, meaning_of_not_integral special]
      cases registry.function? name with
      | none => exact .error rfl
      | some f =>
        apply (meanings_matches fun e he => ih e he env).bind
        intro values values' _ _ hvalues
        rw [hvalues]
        exact matches_locate _ _ _

theorem evalIn_matches {e e' : Expr α} (h : e.unplaced = e'.unplaced) (store : Store α) :
    (evalIn registry store e).Matches (· = ·) Failure.Alike (evalIn registry store e') := by
  rw [evalIn, evalIn, means_eval registry e, means_eval registry e']
  have he' := meaning_unplaced_matches registry e' (Scope.ofStore store).environment
  rw [← h] at he'
  exact (meaning_unplaced_matches registry e _).of_common he'

end

end Expr

/-! ## Markup -/

namespace Markup

open Reckoner.Expr

@[simp] theorem isAtomic_unplaced (e : Expr Float) : e.unplaced.isAtomic = e.isAtomic := by
  cases e <;> rfl

@[simp] theorem isNegation_unplaced (e : Expr Float) : isNegation e.unplaced = isNegation e := by
  cases e with
  | unary op operand => cases op <;> rfl
  | _ => rfl

@[simp] theorem isAdditive_unplaced (e : Expr Float) : isAdditive e.unplaced = isAdditive e := by
  cases e with
  | binary op left right => cases op <;> rfl
  | _ => rfl

/-- The only style that looks at an argument is that of the factorial. -/
theorem renderFunction_map_unplaced (f : Function Float) (args : List (Expr Float))
    (texts : List String) :
    renderFunction f (args.map unplaced) texts = renderFunction f args texts := by
  unfold renderFunction
  cases f.style with
  | factorial =>
    rcases args with _ | ⟨arg, _ | ⟨arg', rest⟩⟩
    · rfl
    · rcases texts with _ | ⟨x, _ | ⟨y, more⟩⟩
      · rfl
      · exact congrArg (fun atomic => parensIf (!atomic) x ++ "!") (isAtomic_unplaced arg)
      · rfl
    · rcases texts with _ | ⟨x, _ | ⟨y, more⟩⟩ <;> rfl
  | _ => rcases texts with _ | ⟨x, _ | ⟨y, _ | ⟨z, more⟩⟩⟩ <;> rfl

/-- Of an integral, the name of its variable is written. -/
theorem renderIntegral_map_unplaced (registry : Registry Float) (name : String)
    (args : List (Expr Float)) (texts : List String) :
    renderIntegral registry name (args.map unplaced) texts = renderIntegral registry name args texts := by
  by_cases hargs : AreIntegral args
  · obtain ⟨body, v, place, lower, upper⟩ := hargs
    simp only [List.map_cons, List.map_nil, unplaced]
    rcases texts with _ | ⟨body, _ | ⟨x, _ | ⟨lower, _ | ⟨upper, _ | ⟨y, more⟩⟩⟩⟩⟩ <;> rfl
  · unfold renderIntegral
    split
    · rename_i heq
      exact absurd (areIntegral_of_map_unplaced (heq ▸ .intro ..)) hargs
    · split
      · exact absurd (.intro ..) hargs
      · rfl

theorem render_unplaced (registry : Registry Float) (e : Expr Float) :
    render registry e.unplaced = render registry e := by
  induction e using Expr.induction with
  | literal value => rfl
  | variableRef name offset => rfl
  | unary op operand ih =>
    cases op with
    | neg => rw [unplaced, UnaryOperator.unplaced, render, render, ih, isAtomic_unplaced]
    | factorial offset => rw [unplaced, UnaryOperator.unplaced, render, render, ih, isAtomic_unplaced]
  | binary op left right ihLeft ihRight =>
    rw [unplaced, render, render, ihLeft, ihRight]
    cases op <;> simp only [renderBinary, isAtomic_unplaced, isNegation_unplaced, isAdditive_unplaced]
  | call name args offset ih =>
    have htexts : renderEach registry (args.map unplaced) = renderEach registry args := by
      rw [renderEach_eq_map, renderEach_eq_map, List.map_map]
      exact List.map_congr_left ih
    rw [unplaced, unplacedEach_eq_map, render, render, htexts]
    unfold renderCall
    simp only [renderFunction_map_unplaced, renderIntegral_map_unplaced]

end Markup

/-! ## Sources -/

theorem Expr.parse_matches {source source' : String} {ts us : List (Token Float)}
    (h : tokenize source = .ok ts) (h' : tokenize source' = .ok us)
    (hkinds : ts.map Token.kind = us.map Token.kind) :
    (parse source).Matches (fun e e' => e.unplaced = e'.unplaced) Failure.Alike (parse source') := by
  rw [parse, parse, h, h']
  exact ofTokens_matches (sameKinds_of_map_kind_eq hkinds) _ _

namespace Calculator

theorem evaluate_matches (c : Calculator) {source source' : String} {ts us : List (Token Float)}
    (h : tokenize source = .ok ts) (h' : tokenize source' = .ok us)
    (hkinds : ts.map Token.kind = us.map Token.kind) :
    (c.evaluate source).Matches (· = ·) Failure.Alike (c.evaluate source') := by
  rw [evaluate, evaluate]
  apply (Expr.parse_matches h h' hkinds).bind
  intro e e' _ _ he
  apply (Expr.evalIn_matches he c.store).bind
  intro value value' _ _ hvalue
  refine .ok ?_
  rw [hvalue, Markup.renderDisplay, Markup.renderDisplay, ← Markup.render_unplaced c.registry e, he,
    Markup.render_unplaced]

/-- Sources whose tokens have the same kinds in the same order are read as the same expression but for
offsets, or fail with reports that agree. In every session they evaluate to the same value with the same
markup, or fail with reports that agree. -/
theorem evaluate_of_same_kinds {source source' : String} {ts us : List (Token Float)}
    (h : tokenize source = .ok ts) (h' : tokenize source' = .ok us)
    (hkinds : ts.map Token.kind = us.map Token.kind) :
    (Expr.parse source).Matches (fun e e' => e.unplaced = e'.unplaced)
      (fun f g => f.report.Agrees g.report) (Expr.parse source') ∧
    ∀ c : Calculator, (c.evaluate source).Matches (· = ·) (fun f g => f.report.Agrees g.report)
      (c.evaluate source') := by
  have hreports : ∀ f g : Failure Float, f.Alike g → f.report.Agrees g.report :=
    fun f g alike => alike.report_agrees
  constructor
  · exact (Expr.parse_matches h h' hkinds).imp (fun _ _ he => he) hreports
  · intro c
    exact (c.evaluate_matches h h' hkinds).imp (fun _ _ heq => heq) hreports

/-- The same product with blanks, the glyph of a keypad and a longer numeral. -/
theorem evaluate_of_same_kinds_product :
    ∃ ts us, tokenize "sqrt(9)*2" = .ok ts ∧ tokenize " sqrt( 9.0 ) × 20e-1" = .ok us ∧
      ts.map Token.kind = us.map Token.kind ∧
      (Expr.parse "sqrt(9)*2").Matches (fun e e' => e.unplaced = e'.unplaced)
        (fun f g => f.report.Agrees g.report) (Expr.parse " sqrt( 9.0 ) × 20e-1") ∧
      (standard.evaluate "sqrt(9)*2").Matches (· = ·) (fun f g => f.report.Agrees g.report)
        (standard.evaluate " sqrt( 9.0 ) × 20e-1") := by
  have hread : (tokenize "sqrt(9)*2").toOption.map (List.map Token.kind) =
      some [.identifier "sqrt", .leftParen, .number 9, .rightParen, .operator '*', .number 2] := by
    decide +kernel
  have hread' : (tokenize " sqrt( 9.0 ) × 20e-1").toOption.map (List.map Token.kind) =
      some [.identifier "sqrt", .leftParen, .number 9, .rightParen, .operator '*', .number 2] := by
    decide +kernel
  obtain ⟨ts, hts, hkinds⟩ := Answer.exists_eq_ok_of_map hread
  obtain ⟨us, hus, hkinds'⟩ := Answer.exists_eq_ok_of_map hread'
  have hsame : ts.map Token.kind = us.map Token.kind := hkinds.trans hkinds'.symm
  obtain ⟨hparse, hevaluate⟩ := evaluate_of_same_kinds hts hus hsame
  exact ⟨ts, us, hts, hus, hsame, hparse, hevaluate standard⟩

end Calculator

end Reckoner
