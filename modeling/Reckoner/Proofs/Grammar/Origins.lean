import Reckoner.Proofs.Grammar.Reading

/-!
# Where the parts of a tree come from

Every node of a tree that was read from tokens stands for some of them, at the offset it carries.
-/

namespace Reckoner

namespace Expr

variable {α : Type}

/-- One expression is another, or an operand or argument somewhere inside it. -/
inductive Within (part : Expr α) : Expr α → Prop where
  | self : Within part part
  | operand {op : UnaryOperator} {e : Expr α} (h : Within part e) : Within part (unary op e)
  | left {op : BinaryOperator} {l r : Expr α} (h : Within part l) : Within part (binary op l r)
  | right {op : BinaryOperator} {l r : Expr α} (h : Within part r) : Within part (binary op l r)
  | argument {name : String} {args : List (Expr α)} {offset : Nat} {arg : Expr α} (mem : arg ∈ args)
      (h : Within part arg) : Within part (call name args offset)

/-- The tokens that a node stands for are among `ts`, where it says. -/
def StandsIn (ts : List (Token α)) : Expr α → Prop
  | literal value => ∃ offset, ⟨.number value, offset⟩ ∈ ts
  | variableRef name offset => ⟨.identifier name, offset⟩ ∈ ts
  | unary .neg _ => True
  | unary (.factorial offset) _ => ⟨.operator '!', offset⟩ ∈ ts
  | binary .. => True
  | call name _ offset =>
    ∃ opened, [⟨.identifier name, offset⟩, ⟨.leftParen, opened⟩] <:+: ts

theorem StandsIn.mono {ts us : List (Token α)} (hsub : ts <:+: us) {e : Expr α}
    (h : e.StandsIn ts) : e.StandsIn us := by
  cases e with
  | literal value => exact h.imp fun offset hmem => hsub.subset hmem
  | variableRef name offset => exact hsub.subset h
  | unary op operand =>
    cases op with
    | neg => trivial
    | factorial offset => exact hsub.subset h
  | binary => trivial
  | call name args offset => exact h.imp fun opened hnext => hnext.trans hsub

/-- Every part of the expression stands in the tokens. -/
def AllStandIn (ts : List (Token α)) (e : Expr α) : Prop := ∀ part, Within part e → part.StandsIn ts

theorem AllStandIn.mono {ts us : List (Token α)} (hsub : ts <:+: us) {e : Expr α}
    (h : e.AllStandIn ts) : e.AllStandIn us := fun part hpart => (h part hpart).mono hsub

theorem AllStandIn.unary {ts : List (Token α)} {op : UnaryOperator} {operand : Expr α}
    (hself : (Expr.unary op operand).StandsIn ts) (h : operand.AllStandIn ts) :
    (Expr.unary op operand).AllStandIn ts := by
  intro part hpart
  cases hpart with
  | self => exact hself
  | operand hpart => exact h part hpart

theorem AllStandIn.binary {ts : List (Token α)} (op : BinaryOperator) {l r : Expr α}
    (hl : l.AllStandIn ts) (hr : r.AllStandIn ts) : (Expr.binary op l r).AllStandIn ts := by
  intro part hpart
  cases hpart with
  | self => trivial
  | left hpart => exact hl part hpart
  | right hpart => exact hr part hpart

theorem AllStandIn.call {ts : List (Token α)} {name : String} {args : List (Expr α)} {offset : Nat}
    (hself : (Expr.call name args offset).StandsIn ts) (h : ∀ arg ∈ args, arg.AllStandIn ts) :
    (Expr.call name args offset).AllStandIn ts := by
  intro part hpart
  cases hpart with
  | self => exact hself
  | argument mem hpart => exact h _ mem part hpart

end Expr

namespace Grammar

open Reckoner.Expr

variable {α : Type}

theorem allStandIn_joined {ts : List (Token α)} {left : Expr α}
    {links : List (BinaryOperator × Expr α)} (hleft : left.AllStandIn ts)
    (hlinks : ∀ link ∈ links, link.2.AllStandIn ts) : (joined left links).AllStandIn ts := by
  induction links generalizing left with
  | nil => exact hleft
  | cons link links ih =>
    obtain ⟨hlink, hlinks⟩ := List.forall_mem_cons.mp hlinks
    exact ih (hleft.binary link.1 hlink) hlinks

theorem allStandIn_marked {ts : List (Token α)} {operand : Expr α} {marks : List Nat}
    (hoperand : operand.AllStandIn ts)
    (hmarks : ∀ offset ∈ marks, ⟨.operator '!', offset⟩ ∈ ts) :
    (marked operand marks).AllStandIn ts := by
  induction marks generalizing operand with
  | nil => exact hoperand
  | cons offset marks ih =>
    obtain ⟨hmark, hmarks⟩ := List.forall_mem_cons.mp hmarks
    exact ih (.unary hmark hoperand) hmarks

/-- The trees among what a derivation stands for. -/
def Symbol.trees : (s : Symbol) → s.Value α → List (Expr α)
  | .rule _, e => [e]
  | .links _, es => es.map Prod.snd
  | .arguments, es => es
  | .moreArguments, es => es

/-- What a derivation stands for comes from the tokens it derives. -/
theorem Derivation.allStandIn {s : Symbol} (d : Derivation α s) :
    ∀ e ∈ Symbol.trees s d.tree, e.AllStandIn d.tokens := by
  have atFront {us vs : List (Token α)} : us <:+: us ++ vs := (List.prefix_append us vs).isInfix
  have atBack {us vs : List (Token α)} : vs <:+: us ++ vs := (List.suffix_append us vs).isInfix
  have afterFirst {t : Token α} {us vs : List (Token α)} : us <:+: t :: (us ++ vs) :=
    ⟨[t], vs, rfl⟩
  induction d with
  | chain first rest ihFirst ihRest =>
    refine List.forall_mem_singleton.mpr (allStandIn_joined ?_ fun link hlink => ?_)
    · exact (ihFirst _ List.mem_cons_self).mono atFront
    · exact (ihRest _ (List.mem_map_of_mem hlink)).mono atBack
  | noLink => exact List.forall_mem_nil _
  | link op mem offset right rest ihRight ihRest =>
    refine List.forall_mem_cons.mpr ⟨(ihRight _ List.mem_cons_self).mono afterFirst, fun e he => ?_⟩
    exact (ihRest e he).mono (atBack.trans (List.suffix_cons _ _).isInfix)
  | plain base ih => exact ih
  | power base offset exponent ihBase ihExponent =>
    refine List.forall_mem_singleton.mpr (.binary .pow ?_ ?_)
    · exact (ihBase _ List.mem_cons_self).mono atFront
    · exact (ihExponent _ List.mem_cons_self).mono ((List.suffix_cons _ _).isInfix.trans atBack)
  | unsigned operand ih => exact ih
  | negated offset operand ih =>
    refine List.forall_mem_singleton.mpr (.unary trivial ?_)
    exact (ih _ List.mem_cons_self).mono (List.suffix_cons _ _).isInfix
  | postfixed operand marks ih =>
    refine List.forall_mem_singleton.mpr (allStandIn_marked ?_ fun offset hoffset => ?_)
    · exact (ih _ List.mem_cons_self).mono atFront
    · exact List.mem_append_right _ (List.mem_map_of_mem hoffset)
  | number value offset =>
    refine List.forall_mem_singleton.mpr fun part hpart => ?_
    cases hpart
    exact ⟨offset, List.mem_cons_self⟩
  | name text offset =>
    refine List.forall_mem_singleton.mpr fun part hpart => ?_
    cases hpart
    exact List.mem_cons_self
  | call text offset opened args closed ih =>
    refine List.forall_mem_singleton.mpr (.call ⟨opened, [], _, rfl⟩ fun arg harg => ?_)
    exact (ih arg harg).mono (afterFirst.trans (List.suffix_cons _ _).isInfix)
  | group opened inner closed ih =>
    exact List.forall_mem_singleton.mpr ((ih _ List.mem_cons_self).mono afterFirst)
  | noArguments => exact List.forall_mem_nil _
  | arguments first rest ihFirst ihRest =>
    refine List.forall_mem_cons.mpr ⟨(ihFirst _ List.mem_cons_self).mono atFront, fun e he => ?_⟩
    exact (ihRest e he).mono atBack
  | noMore => exact List.forall_mem_nil _
  | more comma arg rest ihArg ihRest =>
    refine List.forall_mem_cons.mpr ⟨(ihArg _ List.mem_cons_self).mono afterFirst, fun e he => ?_⟩
    exact (ihRest e he).mono (atBack.trans (List.suffix_cons _ _).isInfix)

end Grammar

/-- Every part of a tree that was read from a source stands among its tokens. -/
theorem Expr.allStandIn_of_parse {source : String} {e : Expr Float}
    (h : parse source = .ok e) : ∃ ts, tokenize source = .ok ts ∧ e.AllStandIn ts := by
  unfold parse at h
  cases htokens : tokenize source with
  | error failure =>
    rw [htokens] at h
    cases h
  | ok ts =>
    rw [htokens] at h
    obtain ⟨d, -, rfl, rfl⟩ := ofTokens_eq_ok_iff.mp h
    exact ⟨d.tokens, rfl, d.allStandIn _ List.mem_cons_self⟩

end Reckoner
