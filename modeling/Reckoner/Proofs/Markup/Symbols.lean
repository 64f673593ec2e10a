import Reckoner.Proofs.Markup.Words
import Reckoner.Library

/-!
# Names that look alike

A name is written as the symbol of a constant, as a Greek letter or letter by letter. What it is written
as determines it, except where a symbol interferes: two names of one constant share it, and the golden
ratio, whose name is that of a Greek letter, is written as a variant of that letter, which has a name too.
-/

namespace Reckoner.Markup

/-- Names of constants with the same value. -/
def SameConstant (registry : Registry Float) (text text' : String) : Prop :=
  ∃ c c', registry.constant? text = some c ∧ registry.constant? text' = some c' ∧ c.value = c'.value

/-- A name of the golden ratio, and the name of the letter that is its symbol. -/
def IsGoldenPair (text text' : String) : Prop := text ∈ ["phi", "φ"] ∧ text' = "varphi"

/-! ## The symbols of the library -/

/-- Constants of different value have different symbols. -/
theorem markup_eq_iff : ∀ c ∈ Library.constants, ∀ c' ∈ Library.constants,
    c.markup = c'.markup ↔ c.value = c'.value := by
  decide +kernel

/-- A symbol that reads back as a name reads back as that of a constant, or it is the golden ratio's. -/
theorem nameOf_symbol : ∀ c ∈ Library.constants, ∃ symbol ∈ c.markup,
    (nameOf symbol.toList).all Lexeme.isNamePart = true →
      (∃ d ∈ Library.constants, d.name.toList = nameOf symbol.toList) ∨
        c.name ∈ ["phi", "φ"] ∧ nameOf symbol.toList = "varphi".toList := by
  decide +kernel

theorem constants_standard : Library.standard.constants = Library.constants := rfl

section

variable {registry : Registry Float} {text text' : String} {c c' : Constant Float}

theorem renderName_constant (hc : registry.constant? text = some c) {symbol : String}
    (hsymbol : c.markup = some symbol) : renderName registry text = symbol := by
  rw [renderName, hc, Option.bind_some, hsymbol]

variable (library : registry.constants = Library.constants)

include library

theorem mem_constants (hc : registry.constant? text = some c) :
    c ∈ Library.constants ∧ c.name = text := by
  refine ⟨library ▸ List.mem_of_find?_eq_some hc, ?_⟩
  simpa using List.find?_some hc

theorem constant?_ne_none (hc : c ∈ Library.constants) : registry.constant? c.name ≠ none := by
  intro hnone
  have hother := List.find?_eq_none.mp hnone c (library ▸ hc)
  exact hother (beq_self_eq_true c.name)

/-- Two constants look alike exactly when they have the same value. -/
theorem renderName_constant_eq_iff (hc : registry.constant? text = some c)
    (hc' : registry.constant? text' = some c') :
    renderName registry text = renderName registry text' ↔ c.value = c'.value := by
  have hmem := (mem_constants library hc).1
  have hmem' := (mem_constants library hc').1
  obtain ⟨symbol, hsymbol, -⟩ := nameOf_symbol c hmem
  obtain ⟨symbol', hsymbol', -⟩ := nameOf_symbol c' hmem'
  rw [renderName_constant hc hsymbol, renderName_constant hc' hsymbol', ← markup_eq_iff c hmem c' hmem',
    hsymbol, hsymbol', Option.some.injEq]

/-- A constant looks like another name only when that is the name of its symbol. -/
theorem isGoldenPair_of_renderName_eq (hc : registry.constant? text = some c)
    (free : registry.constant? text' = none) (h' : IsIdentifier text')
    (heq : renderName registry text = renderName registry text') : IsGoldenPair text text' := by
  obtain ⟨hmem, hname⟩ := mem_constants library hc
  obtain ⟨symbol, hsymbol, hread⟩ := nameOf_symbol c hmem
  obtain ⟨-, -, -, -, hparts⟩ := h'.exists_eq_cons
  rw [renderName_constant hc hsymbol] at heq
  rw [heq, (namesAs_renderName h' free).nameOf_eq h'] at hread
  obtain ⟨d, hd, hd'⟩ | ⟨hgolden, hletter⟩ := hread (List.all_eq_true.mpr hparts)
  · have hregistered := constant?_ne_none library hd
    rw [String.toList_inj.mp hd', free] at hregistered
    exact absurd rfl hregistered
  · exact ⟨hname ▸ hgolden, String.toList_inj.mp hletter⟩

theorem IsGoldenPair.renderName_eq (h : IsGoldenPair text text') :
    renderName registry text = renderName registry text' := by
  have hconstant (name : String) : registry.constant? name = Library.standard.constant? name := by
    rw [Registry.constant?, Registry.constant?, library, constants_standard]
  have hsame : ∀ name ∈ ["phi", "φ"],
      renderName Library.standard name = renderName Library.standard "varphi" := by decide +kernel
  obtain ⟨hgolden, rfl⟩ := h
  rw [renderName, renderName, hconstant, hconstant]
  exact hsame text hgolden

end

variable {registry : Registry Float} {text text' : String}

/-- With the constants of the library, names that a source can contain look alike exactly when they are
the same, name constants with the same value, or are the golden ratio and `varphi`. -/
theorem renderName_eq_iff (library : registry.constants = Library.constants)
    {source source' : String} {ts ts' : List (Token Float)} {offset offset' : ℕ}
    (h : tokenize source = .ok ts) (hmem : ⟨.identifier text, offset⟩ ∈ ts)
    (h' : tokenize source' = .ok ts') (hmem' : ⟨.identifier text', offset'⟩ ∈ ts') :
    renderName registry text = renderName registry text' ↔
      text = text' ∨ SameConstant registry text text' ∨
        IsGoldenPair text text' ∨ IsGoldenPair text' text := by
  have hname := isIdentifier_of_mem h hmem
  have hname' := isIdentifier_of_mem h' hmem'
  constructor
  · intro heq
    cases hc : registry.constant? text with
    | none =>
      cases hc' : registry.constant? text' with
      | none => exact .inl (renderName_inj hname hname' hc hc' heq)
      | some c' =>
        exact .inr (.inr (.inr (isGoldenPair_of_renderName_eq library hc' hc hname heq.symm)))
    | some c =>
      cases hc' : registry.constant? text' with
      | none => exact .inr (.inr (.inl (isGoldenPair_of_renderName_eq library hc hc' hname' heq)))
      | some c' =>
        have hvalue := (renderName_constant_eq_iff library hc hc').mp heq
        exact .inr (.inl ⟨c, c', hc, hc', hvalue⟩)
  · rintro (rfl | ⟨c, c', hc, hc', hvalue⟩ | hgolden | hgolden)
    · rfl
    · exact (renderName_constant_eq_iff library hc hc').mpr hvalue
    · exact hgolden.renderName_eq library
    · exact (hgolden.renderName_eq library).symm

/-- Two names of one constant. -/
theorem renderName_eq_iff_pi :
    ∃ ts, tokenize "pi - π" = .ok ts ∧ (⟨.identifier "pi", 0⟩ : Token Float) ∈ ts ∧
      (⟨.identifier "π", 5⟩ : Token Float) ∈ ts ∧
      Library.standard.constants = Library.constants ∧
      renderName Library.standard "pi" = renderName Library.standard "π" := by
  let ts : List (Token Float) := [⟨.identifier "pi", 0⟩, ⟨.operator '-', 3⟩, ⟨.identifier "π", 5⟩]
  have htokens : tokenize "pi - π" = .ok ts := by with_unfolding_all rfl
  have hname : (⟨.identifier "pi", 0⟩ : Token Float) ∈ ts := by simp [ts]
  have hsymbol : (⟨.identifier "π", 5⟩ : Token Float) ∈ ts := by simp [ts]
  have hsame : SameConstant Library.standard "pi" "π" :=
    ⟨Library.pi, Library.piSymbol, by decide +kernel, by decide +kernel, rfl⟩
  have halike := renderName_eq_iff constants_standard htokens hname htokens hsymbol
  exact ⟨ts, htokens, hname, hsymbol, constants_standard, halike.mpr (.inr (.inl hsame))⟩

/-- The golden ratio and the variable `varphi` look alike. -/
theorem renderName_goldenRatio :
    tokenize "phi + varphi" =
        .ok [⟨.identifier "phi", 0⟩, ⟨.operator '+', 4⟩, ⟨.identifier "varphi", 6⟩] ∧
      renderName Library.standard "phi" = renderName Library.standard "varphi" ∧
      ¬ ("phi" = "varphi" ∨ SameConstant Library.standard "phi" "varphi") := by
  have hvariable : Library.standard.constant? "varphi" = none := by decide +kernel
  refine ⟨by with_unfolding_all rfl, by decide +kernel, ?_⟩
  rintro (heq | ⟨c, c', -, hc', -⟩)
  · exact absurd heq (by decide)
  · rw [hvariable] at hc'
    cases hc'

end Reckoner.Markup
