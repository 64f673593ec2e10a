import Reckoner.Proofs.Grammar

/-!
# The grammar is unambiguous

A derivation is determined by the tokens it derives, even when others follow, as long as the next
token could not have continued it. What can continue it is told by ranks: a parenthesis continues a
name, a factorial mark a primary, and each binary operator what its own rule joins.
-/

namespace Reckoner

/-- The rank of the rule that continues with a token. -/
def Lexeme.rank? {α : Type} : Lexeme α → Option Nat
  | .leftParen => some 0
  | .operator '!' => some 1
  | .operator '^' => some 2
  | .operator '*' => some 3
  | .operator '/' => some 3
  | .operator '+' => some 4
  | .operator '-' => some 4
  | _ => none

namespace Grammar

variable {α : Type}

def Rule.rank : Rule → Nat
  | primary => 0
  | postfixed => 1
  | unary => 1
  | factor => 2
  | chain .product => 3
  | chain .sum => 4

/-- No rule up to rank `n` continues with the token in front. -/
def Stops (n : Nat) (ts : List (Token α)) : Prop :=
  ∀ t ∈ ts.head?, ∀ k ∈ t.kind.rank?, n < k

@[simp] theorem stops_nil (n : Nat) : Stops n ([] : List (Token α)) := by
  simp [Stops]

@[simp] theorem stops_rightParen (n offset : Nat) (ts : List (Token α)) :
    Stops n (⟨.rightParen, offset⟩ :: ts) := by
  simp [Stops, Lexeme.rank?]

@[simp] theorem stops_comma (n offset : Nat) (ts : List (Token α)) :
    Stops n (⟨.comma, offset⟩ :: ts) := by
  simp [Stops, Lexeme.rank?]

@[simp] theorem stops_leftParen_iff (n offset : Nat) (ts : List (Token α)) :
    Stops n (⟨.leftParen, offset⟩ :: ts) ↔ False := by
  simp [Stops, Lexeme.rank?]

@[simp] theorem stops_mark_iff (n offset : Nat) (ts : List (Token α)) :
    Stops n (⟨.operator '!', offset⟩ :: ts) ↔ n < 1 := by
  simp [Stops, Lexeme.rank?]

@[simp] theorem stops_power_iff (n offset : Nat) (ts : List (Token α)) :
    Stops n (⟨.operator '^', offset⟩ :: ts) ↔ n < 2 := by
  simp [Stops, Lexeme.rank?]

/-- An operator of a chain continues the chain and nothing below it. -/
theorem stops_link_iff {l : Level} {op : BinaryOperator} (mem : op ∈ l.operators)
    (n offset : Nat) (ts : List (Token α)) :
    Stops n (⟨.operator op.symbol, offset⟩ :: ts) ↔ n < (Rule.chain l).rank := by
  cases l <;> simp only [Level.operators, List.mem_cons, List.not_mem_nil, or_false] at mem <;>
    rcases mem with rfl | rfl <;>
    simp [Stops, Lexeme.rank?, BinaryOperator.symbol, Rule.rank]

theorem not_stops_link {l : Level} {op : BinaryOperator} (mem : op ∈ l.operators)
    (offset : Nat) (ts : List (Token α)) :
    ¬ Stops (Rule.chain l).rank (⟨.operator op.symbol, offset⟩ :: ts) := by
  intro h
  exact Nat.lt_irrefl _ ((stops_link_iff mem _ offset ts).mp h)

theorem Stops.mono {m n : Nat} {ts : List (Token α)} (h : Stops n ts) (hmn : m ≤ n) :
    Stops m ts :=
  fun t ht k hk => Nat.lt_of_le_of_lt hmn (h t ht k hk)

theorem Level.rank_operand_lt (l : Level) : l.operand.rank < (Rule.chain l).rank := by
  cases l <;> decide

/-- The tokens with which a rule can start. -/
def Rule.Starts (r : Rule) : Lexeme α → Prop
  | .number _ => True
  | .identifier _ => True
  | .leftParen => True
  | .operator c => c = '-' ∧ r ≠ .primary ∧ r ≠ .postfixed
  | _ => False

theorem Rule.Starts.weaken {r r' : Rule} {kind : Lexeme α} (h : r.Starts kind)
    (hp : r' ≠ .primary) (hq : r' ≠ .postfixed) : r'.Starts kind := by
  cases kind <;> simp_all [Rule.Starts]

/-- What must follow the derivations of a symbol so that they could not go on. -/
def Symbol.Ends : Symbol → List (Token α) → Prop
  | rule r, ts => Stops r.rank ts
  | links l, ts => Stops (Rule.chain l).rank ts
  | arguments, ts => ∃ closed rest, ts = ⟨.rightParen, closed⟩ :: rest
  | moreArguments, ts => ∃ closed rest, ts = ⟨.rightParen, closed⟩ :: rest

theorem ends_unary_power (offset : Nat) (ts : List (Token α)) :
    (Symbol.rule .unary).Ends (⟨.operator '^', offset⟩ :: ts) :=
  (stops_power_iff _ _ _).mpr (by decide)

theorem not_ends_factor_power (offset : Nat) (ts : List (Token α)) :
    ¬ (Symbol.rule .factor).Ends (⟨.operator '^', offset⟩ :: ts) := by
  intro h
  exact absurd ((stops_power_iff _ _ _).mp h) (by decide)

theorem stops_markTokens {r : List (Token α)} (h : Stops 1 r) (marks : List Nat) :
    Stops 0 (markTokens marks ++ r) := by
  cases marks with
  | nil => exact h.mono (Nat.zero_le 1)
  | cons offset marks => simp [markTokens]

theorem markTokens_append_inj {marks marks' : List Nat} {r r' : List (Token α)}
    (hr : Stops 1 r) (hr' : Stops 1 r') (h : markTokens marks ++ r = markTokens marks' ++ r') :
    marks = marks' ∧ r = r' := by
  induction marks generalizing marks' with
  | nil =>
    cases marks' with
    | nil => exact ⟨rfl, h⟩
    | cons offset' marks' =>
      simp only [markTokens, List.map_nil, List.nil_append, List.map_cons, List.cons_append] at h
      simp [h] at hr
  | cons offset marks ih =>
    cases marks' with
    | nil =>
      simp only [markTokens, List.map_nil, List.nil_append, List.map_cons, List.cons_append] at h
      simp [← h] at hr'
    | cons offset' marks' =>
      simp only [markTokens, List.map_cons, List.cons_append, List.cons.injEq, Token.mk.injEq,
        true_and] at h
      obtain ⟨rfl, hrest⟩ := h
      obtain ⟨rfl, rfl⟩ := ih hrest
      exact ⟨rfl, rfl⟩

namespace Derivation

/-- A rule derives at least one token, and only some tokens can come first. -/
theorem exists_tokens_eq_cons {r : Rule} (d : Derivation α (.rule r)) :
    ∃ t ts, d.tokens = t :: ts ∧ r.Starts t.kind := by
  generalize hs : Symbol.rule r = s at d
  induction d generalizing r with
  | @chain l first rest ihFirst _ =>
    cases hs
    obtain ⟨t, ts, htokens, hstart⟩ := ihFirst rfl
    exact ⟨t, ts ++ rest.tokens, by simp [tokens, htokens], hstart.weaken nofun nofun⟩
  | plain base ih =>
    cases hs
    obtain ⟨t, ts, htokens, hstart⟩ := ih rfl
    exact ⟨t, ts, htokens, hstart.weaken nofun nofun⟩
  | power base offset exponent ih _ =>
    cases hs
    obtain ⟨t, ts, htokens, hstart⟩ := ih rfl
    exact ⟨t, _, by rw [tokens, htokens, List.cons_append], hstart.weaken nofun nofun⟩
  | unsigned operand ih =>
    cases hs
    obtain ⟨t, ts, htokens, hstart⟩ := ih rfl
    exact ⟨t, ts, htokens, hstart.weaken nofun nofun⟩
  | negated offset operand _ =>
    cases hs
    exact ⟨_, _, rfl, rfl, nofun, nofun⟩
  | postfixed operand marks ih =>
    cases hs
    obtain ⟨t, ts, htokens, hstart⟩ := ih rfl
    refine ⟨t, _, by rw [tokens, htokens, List.cons_append], ?_⟩
    cases hkind : t.kind <;> simp_all [Rule.Starts]
  | number value offset => cases hs; exact ⟨_, _, rfl, trivial⟩
  | name text offset => cases hs; exact ⟨_, _, rfl, trivial⟩
  | call text offset opened args closed _ => cases hs; exact ⟨_, _, rfl, trivial⟩
  | group opened inner closed _ => cases hs; exact ⟨_, _, rfl, trivial⟩
  | _ => cases hs

/-- Tokens that start otherwise are not derived. -/
theorem tokens_append_ne_cons {r : Rule} (d : Derivation α (.rule r)) {t : Token α}
    (h : ¬ r.Starts t.kind) (rest ts : List (Token α)) : d.tokens ++ rest ≠ t :: ts := by
  obtain ⟨t', ts', htokens, hstart⟩ := d.exists_tokens_eq_cons
  intro heq
  rw [htokens, List.cons_append] at heq
  obtain ⟨rfl, -⟩ := List.cons.inj heq
  exact h hstart

theorem stops_tokens_links {l : Level} (d : Derivation α (.links l)) {r : List (Token α)}
    (h : Stops (Rule.chain l).rank r) : Stops l.operand.rank (d.tokens ++ r) := by
  cases d with
  | noLink => exact h.mono (Nat.le_of_lt l.rank_operand_lt)
  | link op mem offset right rest => exact (stops_link_iff mem _ _ _).mpr l.rank_operand_lt

theorem stops_tokens_more (d : Derivation α .moreArguments) {r : List (Token α)}
    (h : Symbol.moreArguments.Ends r) (n : Nat) : Stops n (d.tokens ++ r) := by
  cases d with
  | noMore =>
    obtain ⟨closed, rest, rfl⟩ := h
    simp [tokens]
  | more comma arg rest => simp [tokens]

/-- The derivation and what follows it are determined by the tokens they make together. -/
def IsDetermined {s : Symbol} (d : Derivation α s) : Prop :=
  ∀ (d' : Derivation α s) {r r' : List (Token α)}, s.Ends r → s.Ends r' →
    d.tokens ++ r = d'.tokens ++ r' → d = d' ∧ r = r'

/-! Each rule inherits it from its parts: the first part of a derivation is followed by what ends it,
whichever derivation it is of; so the first parts are equal, and what follows them starts with the
same token. -/

section Parts

variable {l : Level}

theorem IsDetermined.chain {first : Derivation α (.rule l.operand)} {rest : Derivation α (.links l)}
    (hfirst : first.IsDetermined) (hrest : rest.IsDetermined) : (chain first rest).IsDetermined := by
  intro d' r r' hr hr' h
  cases d' with
  | chain first' rest' =>
    simp only [tokens, List.append_assoc] at h
    obtain ⟨rfl, hlinks⟩ :=
      hfirst first' (rest.stops_tokens_links hr) (rest'.stops_tokens_links hr') h
    obtain ⟨rfl, rfl⟩ := hrest rest' hr hr' hlinks
    exact ⟨rfl, rfl⟩

theorem isDetermined_noLink : (noLink : Derivation α (.links l)).IsDetermined := by
  intro d' r r' hr hr' h
  cases d' with
  | noLink => exact ⟨rfl, h⟩
  | link op mem offset right rest =>
    simp only [tokens, List.nil_append, List.cons_append] at h
    subst h
    exact absurd hr (not_stops_link mem _ _)

theorem IsDetermined.link {op : BinaryOperator} (mem : op ∈ l.operators) (offset : Nat)
    {right : Derivation α (.rule l.operand)} {rest : Derivation α (.links l)}
    (hright : right.IsDetermined) (hrest : rest.IsDetermined) :
    (link op mem offset right rest).IsDetermined := by
  intro d' r r' hr hr' h
  cases d' with
  | noLink =>
    simp only [tokens, List.nil_append, List.cons_append] at h
    subst h
    exact absurd hr' (not_stops_link mem _ _)
  | link op' mem' offset' right' rest' =>
    simp only [tokens, List.cons_append, List.append_assoc, List.cons.injEq, Token.mk.injEq,
      Lexeme.operator.injEq] at h
    obtain ⟨⟨hop, rfl⟩, h⟩ := h
    obtain rfl := BinaryOperator.symbol_injective hop
    obtain ⟨rfl, hlinks⟩ :=
      hright right' (rest.stops_tokens_links hr) (rest'.stops_tokens_links hr') h
    obtain ⟨rfl, rfl⟩ := hrest rest' hr hr' hlinks
    exact ⟨rfl, rfl⟩

theorem IsDetermined.plain {base : Derivation α (.rule .unary)} (hbase : base.IsDetermined) :
    (plain base).IsDetermined := by
  intro d' r r' hr hr' h
  have hends : Stops Rule.unary.rank r := hr.mono (by decide)
  cases d' with
  | plain base' =>
    obtain ⟨rfl, rfl⟩ := hbase base' hends (hr'.mono (by decide)) h
    exact ⟨rfl, rfl⟩
  | power base' offset' exponent' =>
    simp only [tokens, List.append_assoc] at h
    obtain ⟨-, rfl⟩ := hbase base' hends (ends_unary_power _ _) h
    exact absurd hr (not_ends_factor_power _ _)

theorem IsDetermined.power {base : Derivation α (.rule .unary)} (offset : Nat)
    {exponent : Derivation α (.rule .factor)} (hbase : base.IsDetermined)
    (hexponent : exponent.IsDetermined) : (power base offset exponent).IsDetermined := by
  intro d' r r' hr hr' h
  cases d' with
  | plain base' =>
    have hends' : Stops Rule.unary.rank r' := hr'.mono (by decide)
    simp only [tokens, List.append_assoc] at h
    obtain ⟨-, rfl⟩ := hbase base' (ends_unary_power _ _) hends' h
    exact absurd hr' (not_ends_factor_power _ _)
  | power base' offset' exponent' =>
    simp only [tokens, List.append_assoc, List.cons_append] at h
    obtain ⟨rfl, hrest⟩ := hbase base' (ends_unary_power _ _) (ends_unary_power _ _) h
    simp only [List.cons.injEq, Token.mk.injEq, true_and] at hrest
    obtain ⟨rfl, hexponents⟩ := hrest
    obtain ⟨rfl, rfl⟩ := hexponent exponent' hr hr' hexponents
    exact ⟨rfl, rfl⟩

theorem IsDetermined.unsigned {operand : Derivation α (.rule .postfixed)}
    (hoperand : operand.IsDetermined) : (unsigned operand).IsDetermined := by
  intro d' r r' hr hr' h
  cases d' with
  | unsigned operand' =>
    obtain ⟨rfl, rfl⟩ := hoperand operand' hr hr' h
    exact ⟨rfl, rfl⟩
  | negated offset' operand' =>
    exact absurd h (operand.tokens_append_ne_cons (by simp [Rule.Starts]) _ _)

theorem IsDetermined.negated (offset : Nat) {operand : Derivation α (.rule .postfixed)}
    (hoperand : operand.IsDetermined) : (negated offset operand).IsDetermined := by
  intro d' r r' hr hr' h
  cases d' with
  | unsigned operand' =>
    exact absurd h.symm (operand'.tokens_append_ne_cons (by simp [Rule.Starts]) _ _)
  | negated offset' operand' =>
    simp only [tokens, List.cons_append, List.cons.injEq, Token.mk.injEq, true_and] at h
    obtain ⟨rfl, h⟩ := h
    obtain ⟨rfl, rfl⟩ := hoperand operand' hr hr' h
    exact ⟨rfl, rfl⟩

theorem IsDetermined.postfixed {operand : Derivation α (.rule .primary)}
    (hoperand : operand.IsDetermined) (marks : List Nat) :
    (postfixed operand marks).IsDetermined := by
  intro d' r r' hr hr' h
  cases d' with
  | postfixed operand' marks' =>
    simp only [tokens, List.append_assoc] at h
    obtain ⟨rfl, hrest⟩ :=
      hoperand operand' (stops_markTokens hr marks) (stops_markTokens hr' marks') h
    obtain ⟨rfl, rfl⟩ := markTokens_append_inj hr hr' hrest
    exact ⟨rfl, rfl⟩

theorem isDetermined_number (value : α) (offset : Nat) : (number value offset).IsDetermined := by
  intro d' r r' hr hr' h
  cases d' <;> simp_all [tokens]

theorem isDetermined_name (text : String) (offset : Nat) :
    (name text offset : Derivation α (.rule .primary)).IsDetermined := by
  intro d' r r' hr hr' h
  cases d' with
  | call text' offset' opened' args' closed' =>
    simp only [tokens, List.cons_append, List.nil_append, List.cons.injEq] at h
    obtain ⟨-, rfl⟩ := h
    simp [Symbol.Ends] at hr
  | _ => simp_all [tokens]

theorem IsDetermined.call (text : String) (offset opened closed : Nat)
    {args : Derivation α .arguments} (hargs : args.IsDetermined) :
    (call text offset opened args closed).IsDetermined := by
  intro d' r r' hr hr' h
  cases d' with
  | name text' offset' =>
    simp only [tokens, List.cons_append, List.nil_append, List.cons.injEq] at h
    obtain ⟨-, rfl⟩ := h
    simp [Symbol.Ends] at hr'
  | call text' offset' opened' args' closed' =>
    simp only [tokens, List.cons_append, List.append_assoc, List.nil_append, List.cons.injEq,
      Token.mk.injEq, Lexeme.identifier.injEq, true_and] at h
    obtain ⟨⟨rfl, rfl⟩, rfl, h⟩ := h
    obtain ⟨rfl, hrest⟩ := hargs args' ⟨_, _, rfl⟩ ⟨_, _, rfl⟩ h
    simp_all
  | _ => simp_all [tokens]

theorem IsDetermined.group (opened closed : Nat) {inner : Derivation α (.rule .expr)}
    (hinner : inner.IsDetermined) : (group opened inner closed).IsDetermined := by
  intro d' r r' hr hr' h
  cases d' with
  | group opened' inner' closed' =>
    simp only [tokens, List.cons_append, List.append_assoc, List.nil_append, List.cons.injEq,
      Token.mk.injEq, true_and] at h
    obtain ⟨rfl, h⟩ := h
    obtain ⟨rfl, hrest⟩ := hinner inner' (stops_rightParen _ _ _) (stops_rightParen _ _ _) h
    simp_all
  | _ => simp_all [tokens]

theorem isDetermined_noArguments : (noArguments : Derivation α .arguments).IsDetermined := by
  intro d' r r' hr hr' h
  cases d' with
  | noArguments => exact ⟨rfl, h⟩
  | arguments first' rest' =>
    obtain ⟨closed, after, rfl⟩ := hr
    rw [tokens, tokens, List.append_assoc] at h
    exact absurd h.symm (first'.tokens_append_ne_cons (by simp [Rule.Starts]) _ _)

theorem IsDetermined.arguments {first : Derivation α (.rule .expr)}
    {rest : Derivation α .moreArguments} (hfirst : first.IsDetermined) (hrest : rest.IsDetermined) :
    (arguments first rest).IsDetermined := by
  intro d' r r' hr hr' h
  cases d' with
  | noArguments =>
    obtain ⟨closed, after, rfl⟩ := hr'
    rw [tokens, tokens, List.append_assoc] at h
    exact absurd h (first.tokens_append_ne_cons (by simp [Rule.Starts]) _ _)
  | arguments first' rest' =>
    simp only [tokens, List.append_assoc] at h
    obtain ⟨rfl, hmore⟩ :=
      hfirst first' (rest.stops_tokens_more hr _) (rest'.stops_tokens_more hr' _) h
    obtain ⟨rfl, rfl⟩ := hrest rest' hr hr' hmore
    exact ⟨rfl, rfl⟩

theorem isDetermined_noMore : (noMore : Derivation α .moreArguments).IsDetermined := by
  intro d' r r' hr hr' h
  cases d' with
  | noMore => exact ⟨rfl, h⟩
  | more comma' arg' rest' =>
    obtain ⟨closed, after, rfl⟩ := hr
    simp [tokens] at h

theorem IsDetermined.more (comma : Nat) {arg : Derivation α (.rule .expr)}
    {rest : Derivation α .moreArguments} (harg : arg.IsDetermined) (hrest : rest.IsDetermined) :
    (more comma arg rest).IsDetermined := by
  intro d' r r' hr hr' h
  cases d' with
  | noMore =>
    obtain ⟨closed, after, rfl⟩ := hr'
    simp [tokens] at h
  | more comma' arg' rest' =>
    simp only [tokens, List.cons_append, List.append_assoc, List.cons.injEq, Token.mk.injEq,
      true_and] at h
    obtain ⟨rfl, h⟩ := h
    obtain ⟨rfl, hmore⟩ :=
      harg arg' (rest.stops_tokens_more hr _) (rest'.stops_tokens_more hr' _) h
    obtain ⟨rfl, rfl⟩ := hrest rest' hr hr' hmore
    exact ⟨rfl, rfl⟩

end Parts

theorem isDetermined {s : Symbol} (d : Derivation α s) : d.IsDetermined := by
  induction d with
  | chain first rest ihFirst ihRest => exact ihFirst.chain ihRest
  | noLink => exact isDetermined_noLink
  | link op mem offset right rest ihRight ihRest => exact ihRight.link mem offset ihRest
  | plain base ih => exact ih.plain
  | power base offset exponent ihBase ihExponent => exact ihBase.power offset ihExponent
  | unsigned operand ih => exact ih.unsigned
  | negated offset operand ih => exact ih.negated offset
  | postfixed operand marks ih => exact ih.postfixed marks
  | number value offset => exact isDetermined_number value offset
  | name text offset => exact isDetermined_name text offset
  | call text offset opened args closed ih => exact ih.call text offset opened closed
  | group opened inner closed ih => exact ih.group opened closed
  | noArguments => exact isDetermined_noArguments
  | arguments first rest ihFirst ihRest => exact ihFirst.arguments ihRest
  | noMore => exact isDetermined_noMore
  | more comma arg rest ihArg ihRest => exact ihArg.more comma ihRest

/-- A derivation and what follows it are determined by the tokens they make together. -/
theorem eq_of_tokens_append_eq {s : Symbol} (d d' : Derivation α s) {r r' : List (Token α)}
    (hr : s.Ends r) (hr' : s.Ends r') (h : d.tokens ++ r = d'.tokens ++ r') :
    d = d' ∧ r = r' :=
  d.isDetermined d' hr hr' h

/-- No token sequence has two derivations from one rule. -/
theorem tokens_injective (r : Rule) :
    Function.Injective fun d : Derivation α (.rule r) => d.tokens := by
  intro d d' h
  refine (@eq_of_tokens_append_eq α _ d d' [] [] (stops_nil _) (stops_nil _) ?_).1
  simpa only [List.append_nil] using h

end Derivation

end Grammar

end Reckoner
