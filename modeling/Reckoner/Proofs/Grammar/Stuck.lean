import Reckoner.Proofs.Grammar.Unambiguous

/-!
# Tokens that cannot go on

A reader of a part of the grammar is stuck where more could have followed the tokens it has read, but
not the token that stands there, or nothing where the source ends. What is stuck for a part of a rule
is stuck for the whole rule; for a whole expression it means that the source is beyond repair at this
token and was not before it.
-/

namespace Reckoner

namespace Grammar

variable {α : Type}

/-- The tokens are derived from a symbol, however high the tree and however deep the nesting. -/
def Symbol.Derives (s : Symbol) (ts : List (Token α)) : Prop :=
  ∃ d : Derivation α s, d.tokens = ts

/-- The tokens are a whole expression. -/
def IsSentence (ts : List (Token α)) : Prop := (Symbol.rule .expr).Derives ts

/-- The tokens become a whole expression when the right ones are put after them. -/
def IsViable (ts : List (Token α)) : Prop := ∃ more, IsSentence (ts ++ more)

/-- At least one argument, and the commas between them. -/
def IsArgumentList (ts : List (Token α)) : Prop :=
  ∃ (first : Derivation α (.rule .expr)) (rest : Derivation α .moreArguments),
    first.tokens ++ rest.tokens = ts

/-- A reader of a language has read `pre` and can neither go on with what `rest` begins with nor stop
before it: more of the language could have followed `pre`, but nothing of it, and nothing after it,
begins as `rest` does. If `rest` is empty this is about the end of the source. -/
structure Stuck (language ends : List (Token α) → Prop) (pre rest : List (Token α)) : Prop where
  opens : ∃ more, more ≠ [] ∧ language (pre ++ more)
  refuses : ∀ {us after rest' : List (Token α)}, language us → ends after →
    us ++ after = pre ++ rest' → rest'.head? ≠ rest.head?

theorem stops_congr {n : Nat} {ts ts' : List (Token α)} (h : ts.head? = ts'.head?) :
    Stops n ts ↔ Stops n ts' := by
  simp only [Stops, h]

theorem head?_append_congr {pre rest rest' : List (Token α)} (h : rest'.head? = rest.head?) :
    (pre ++ rest').head? = (pre ++ rest).head? := by
  simp only [List.head?_append, h]

namespace Derivation

/-- No longer derivation of the same symbol goes on with the token in front of `rest`. -/
def EndsBefore {s : Symbol} (d : Derivation α s) (rest : List (Token α)) : Prop :=
  ∀ (d' : Derivation α s) (rest' : List (Token α)), d'.tokens = d.tokens ++ rest' →
    rest'.head? = rest.head? → rest' = []

/-- A name is an expression. -/
theorem exists_expr : ∃ d : Derivation α (.rule .expr), d.tokens = [⟨.identifier "x", 0⟩] :=
  ⟨.chain (.chain (.plain (.unsigned (.postfixed (.name "x" 0) []))) .noLink) .noLink, rfl⟩

/-- Where a derivation that no longer one continues stands in front, every other derivation of the
rule is the same one, as long as something follows it that could not continue it either. -/
theorem EndsBefore.split {r : Rule} {d first : Derivation α (.rule r)} {rest more us : List (Token α)}
    (h : d.EndsBefore rest) (hmore : Stops r.rank more) (hhead : us.head? = rest.head?)
    (heq : first.tokens ++ more = d.tokens ++ us) : first = d ∧ more = us := by
  rcases List.append_eq_append_iff.mp heq with ⟨cs, hd, hmore'⟩ | ⟨cs, hfirst, hus⟩
  · -- What follows the shorter one could not continue it.
    have hcs : Stops r.rank cs := by
      cases cs with
      | nil => exact stops_nil _
      | cons c cs => exact (stops_congr (by simp [hmore'])).mp hmore
    have hsame : first.tokens ++ cs = d.tokens ++ [] := by rw [hd, List.append_nil]
    obtain ⟨rfl, rfl⟩ := first.eq_of_tokens_append_eq d hcs (stops_nil _) hsame
    exact ⟨rfl, hmore'⟩
  · have hcs : cs = [] := by
      cases cs with
      | nil => rfl
      | cons c cs => exact h first _ hfirst (by simp [← hhead, hus])
    subst hcs
    exact ⟨tokens_injective r (by simpa using hfirst), hus.symm⟩

theorem endsBefore_number (value : α) (offset : Nat) (rest : List (Token α)) :
    (Derivation.number value offset).EndsBefore rest := by
  intro d' rest' heq _
  cases d' with
  | number value' offset' => exact (List.cons.inj heq).2.symm
  | _ => simp [Derivation.tokens] at heq

/-- Whatever follows a call in parentheses, the call ends at the parenthesis that closes it. -/
theorem endsBefore_call (text : String) (offset opened closed : Nat) (args : Derivation α .arguments)
    (rest : List (Token α)) : (Derivation.call text offset opened args closed).EndsBefore rest := by
  intro d' rest' heq _
  cases d' with
  | call text' offset' opened' args' closed' =>
    simp only [Derivation.tokens, List.cons_append, List.append_assoc, List.nil_append,
      List.cons.injEq] at heq
    have hsame := (args'.eq_of_tokens_append_eq args ⟨_, _, rfl⟩ ⟨_, _, rfl⟩ heq.2.2).2
    exact (List.cons.inj hsame).2.symm
  | _ => simp [Derivation.tokens] at heq

theorem endsBefore_group (opened closed : Nat) (inner : Derivation α (.rule .expr))
    (rest : List (Token α)) : (Derivation.group opened inner closed).EndsBefore rest := by
  intro d' rest' heq _
  cases d' with
  | group opened' inner' closed' =>
    simp only [Derivation.tokens, List.cons_append, List.append_assoc, List.nil_append,
      List.cons.injEq] at heq
    have hsame := (inner'.eq_of_tokens_append_eq inner (stops_rightParen _ _ _)
      (stops_rightParen _ _ _) heq.2).2
    exact (List.cons.inj hsame).2.symm
  | _ => simp [Derivation.tokens] at heq

theorem endsBefore_name (text : String) (offset : Nat) {rest : List (Token α)}
    (hopened : ∀ opened after, rest ≠ ⟨.leftParen, opened⟩ :: after) :
    (Derivation.name text offset : Derivation α (.rule .primary)).EndsBefore rest := by
  intro d' rest' heq hhead
  cases d' with
  | name text' offset' => exact (List.cons.inj heq).2.symm
  | call text' offset' opened args closed =>
    simp only [Derivation.tokens, List.cons_append, List.nil_append, List.cons.injEq] at heq
    rw [← heq.2] at hhead
    obtain ⟨tail, htail⟩ := List.head?_eq_some_iff.mp hhead.symm
    exact absurd htail (hopened _ _)
  | _ => simp [Derivation.tokens] at heq

theorem EndsBefore.postfixed {operand : Derivation α (.rule .primary)} {marks : List Nat}
    {rest : List (Token α)} (h : operand.EndsBefore (markTokens marks ++ rest))
    (hmark : ∀ offset after, rest ≠ ⟨.operator '!', offset⟩ :: after) :
    (Derivation.postfixed operand marks).EndsBefore rest := by
  intro d' rest' heq hhead
  cases d' with
  | postfixed operand' marks' =>
    simp only [Derivation.tokens, List.append_assoc] at heq
    have hstops : Stops Rule.primary.rank (markTokens marks' : List (Token α)) := by
      simpa [Rule.rank] using stops_markTokens (stops_nil 1) marks'
    have hmore := (h.split hstops (head?_append_congr hhead) heq).2
    cases rest' with
    | nil => rfl
    | cons t rest' =>
      -- All that follows the operand are marks, and no mark follows these.
      have hmem : t ∈ (markTokens marks' : List (Token α)) := by simp [hmore]
      obtain ⟨offset, -, rfl⟩ := List.mem_map.mp hmem
      obtain ⟨tail, htail⟩ := List.head?_eq_some_iff.mp hhead.symm
      exact absurd htail (hmark _ _)

theorem EndsBefore.negated {operand : Derivation α (.rule .postfixed)} {rest : List (Token α)}
    (h : operand.EndsBefore rest) (offset : Nat) :
    (Derivation.negated offset operand).EndsBefore rest := by
  intro d' rest' heq hhead
  cases d' with
  | unsigned operand' =>
    have heq' : operand'.tokens ++ [] = ⟨.operator '-', offset⟩ :: (operand.tokens ++ rest') := by
      rw [List.append_nil]
      exact heq
    exact absurd heq' (operand'.tokens_append_ne_cons (by simp [Rule.Starts]) _ _)
  | negated offset' operand' => exact h operand' rest' (List.cons.inj heq).2 hhead

theorem EndsBefore.unsigned {operand : Derivation α (.rule .postfixed)} {rest : List (Token α)}
    (h : operand.EndsBefore rest) : (Derivation.unsigned operand).EndsBefore rest := by
  intro d' rest' heq hhead
  cases d' with
  | unsigned operand' => exact h operand' rest' heq hhead
  | negated offset' operand' =>
    exact absurd heq.symm (operand.tokens_append_ne_cons (by simp [Rule.Starts]) _ _)

theorem EndsBefore.plain {base : Derivation α (.rule .unary)} {rest : List (Token α)}
    (h : base.EndsBefore rest) (hpower : ∀ offset after, rest ≠ ⟨.operator '^', offset⟩ :: after) :
    (Derivation.plain base).EndsBefore rest := by
  intro d' rest' heq hhead
  cases d' with
  | plain base' => exact h base' rest' heq hhead
  | power base' offset' exponent' =>
    obtain ⟨-, rfl⟩ := h.split (ends_unary_power _ _) hhead heq
    obtain ⟨tail, htail⟩ := List.head?_eq_some_iff.mp hhead.symm
    exact absurd htail (hpower _ _)

theorem EndsBefore.power {base : Derivation α (.rule .unary)} {offset : Nat}
    {exponent : Derivation α (.rule .factor)} {rest : List (Token α)}
    (hbase : base.EndsBefore (⟨.operator '^', offset⟩ :: (exponent.tokens ++ rest)))
    (hexponent : exponent.EndsBefore rest) :
    (Derivation.power base offset exponent).EndsBefore rest := by
  intro d' rest' heq hhead
  have hsign : (⟨.operator '^', offset⟩ :: (exponent.tokens ++ rest') : List (Token α)).head? =
    (⟨.operator '^', offset⟩ :: (exponent.tokens ++ rest) : List (Token α)).head? := rfl
  simp only [Derivation.tokens, List.append_assoc, List.cons_append] at heq
  cases d' with
  | plain base' => exact absurd (hbase base' _ heq hsign) (List.cons_ne_nil _ _)
  | power base' offset' exponent' =>
    have hmore := (hbase.split (ends_unary_power _ _) hsign heq).2
    exact hexponent exponent' rest' (List.cons.inj hmore).2 hhead

theorem endsBefore_noLink {l : Level} {rest : List (Token α)}
    (hlink : ∀ op ∈ l.operators, ∀ offset after, rest ≠ ⟨.operator op.symbol, offset⟩ :: after) :
    (Derivation.noLink : Derivation α (.links l)).EndsBefore rest := by
  intro d' rest' heq hhead
  cases d' with
  | noLink => exact heq.symm
  | link op mem offset right more =>
    rw [Derivation.tokens, Derivation.tokens, List.nil_append] at heq
    rw [← heq] at hhead
    obtain ⟨tail, htail⟩ := List.head?_eq_some_iff.mp hhead.symm
    exact absurd htail (hlink op mem _ _)

/-- An operand and the links after it end where the last of them does. -/
theorem EndsBefore.split_links {l : Level} {first first' : Derivation α (.rule l.operand)}
    {links links' : Derivation α (.links l)} {rest rest' : List (Token α)}
    (hfirst : first.EndsBefore (links.tokens ++ rest)) (hlinks : links.EndsBefore rest)
    (heq : first'.tokens ++ links'.tokens = first.tokens ++ (links.tokens ++ rest'))
    (hhead : rest'.head? = rest.head?) : rest' = [] := by
  have hstops : Stops l.operand.rank links'.tokens := by
    simpa using links'.stops_tokens_links (stops_nil _)
  exact hlinks links' rest' (hfirst.split hstops (head?_append_congr hhead) heq).2 hhead

theorem EndsBefore.link {l : Level} {op : BinaryOperator} (mem : op ∈ l.operators) (offset : Nat)
    {right : Derivation α (.rule l.operand)} {links : Derivation α (.links l)}
    {rest : List (Token α)} (hright : right.EndsBefore (links.tokens ++ rest))
    (hlinks : links.EndsBefore rest) :
    (Derivation.link op mem offset right links).EndsBefore rest := by
  intro d' rest' heq hhead
  cases d' with
  | noLink => simp [Derivation.tokens] at heq
  | link op' mem' offset' right' links' =>
    simp only [Derivation.tokens, List.cons_append, List.append_assoc, List.cons.injEq] at heq
    exact hright.split_links hlinks heq.2 hhead

theorem EndsBefore.chain {l : Level} {first : Derivation α (.rule l.operand)}
    {links : Derivation α (.links l)} {rest : List (Token α)}
    (hfirst : first.EndsBefore (links.tokens ++ rest)) (hlinks : links.EndsBefore rest) :
    (Derivation.chain first links).EndsBefore rest := by
  intro d' rest' heq hhead
  cases d' with
  | chain first' links' =>
    simp only [Derivation.tokens, List.append_assoc] at heq
    exact hfirst.split_links hlinks heq hhead

end Derivation

/-! ## Where the rules are stuck

Each lemma carries a place where a part is stuck to the whole. A part that is already read ends
before what follows it, so every other derivation of the whole begins with the same part. -/

theorem Stuck.firstOperand {l : Level} {pre rest : List (Token α)}
    (stuck : Stuck (Symbol.rule l.operand).Derives (Symbol.rule l.operand).Ends pre rest) :
    Stuck (Symbol.rule (.chain l)).Derives (Symbol.rule (.chain l)).Ends pre rest where
  opens := by
    obtain ⟨more, hne, d, hd⟩ := stuck.opens
    exact ⟨more, hne, .chain d .noLink, by simp [Derivation.tokens, hd]⟩
  refuses := by
    rintro _ after rest' ⟨d', rfl⟩ hafter heq
    cases d' with
    | chain first links =>
      rw [Derivation.tokens, List.append_assoc] at heq
      exact stuck.refuses ⟨first, rfl⟩ (links.stops_tokens_links hafter) heq

/-- Stuck in the links after an operand. -/
theorem Stuck.afterOperand {l : Level} {d : Derivation α (.rule l.operand)}
    {pre rest : List (Token α)} (hends : d.EndsBefore (pre ++ rest))
    (stuck : Stuck (Symbol.links l).Derives (Symbol.links l).Ends pre rest) :
    Stuck (Symbol.rule (.chain l)).Derives (Symbol.rule (.chain l)).Ends (d.tokens ++ pre) rest where
  opens := by
    obtain ⟨more, hne, links, hlinks⟩ := stuck.opens
    exact ⟨more, hne, .chain d links, by simp [Derivation.tokens, hlinks]⟩
  refuses := by
    rintro _ after rest' ⟨d', rfl⟩ hafter heq hhead
    cases d' with
    | chain first links =>
      simp only [Derivation.tokens, List.append_assoc] at heq
      obtain ⟨-, hlinks⟩ :=
        hends.split (links.stops_tokens_links hafter) (head?_append_congr hhead) heq
      exact stuck.refuses ⟨links, rfl⟩ hafter hlinks hhead

/-- After an operator, links go on as a chain does. -/
theorem Stuck.link {l : Level} {op : BinaryOperator} (mem : op ∈ l.operators) (offset : Nat)
    {pre rest : List (Token α)}
    (stuck : Stuck (Symbol.rule (.chain l)).Derives (Symbol.rule (.chain l)).Ends pre rest) :
    Stuck (Symbol.links l).Derives (Symbol.links l).Ends (⟨.operator op.symbol, offset⟩ :: pre)
      rest where
  opens := by
    obtain ⟨more, hne, d, hd⟩ := stuck.opens
    cases d with
    | chain first links =>
      exact ⟨more, hne, .link op mem offset first links, congrArg (List.cons _) hd⟩
  refuses := by
    rintro _ after rest' ⟨d', rfl⟩ hafter heq
    cases d' with
    | noLink =>
      rw [Derivation.tokens, List.nil_append] at heq
      exact absurd (heq ▸ hafter) (not_stops_link mem offset _)
    | link op' mem' offset' right links =>
      exact stuck.refuses ⟨.chain right links, rfl⟩ hafter (List.cons.inj heq).2

theorem Stuck.firstArgument {pre rest : List (Token α)}
    (stuck : Stuck (Symbol.rule .expr).Derives (Symbol.rule .expr).Ends pre rest) :
    Stuck IsArgumentList Symbol.arguments.Ends pre rest where
  opens := by
    obtain ⟨more, hne, d, hd⟩ := stuck.opens
    exact ⟨more, hne, d, .noMore, by simp [Derivation.tokens, hd]⟩
  refuses := by
    rintro _ after rest' ⟨first, args, rfl⟩ hafter heq
    rw [List.append_assoc] at heq
    exact stuck.refuses ⟨first, rfl⟩ (args.stops_tokens_more hafter _) heq

/-- Stuck in the arguments after a comma. -/
theorem Stuck.afterComma {d : Derivation α (.rule .expr)} {comma : Nat} {pre rest : List (Token α)}
    (hends : d.EndsBefore (⟨.comma, comma⟩ :: (pre ++ rest)))
    (stuck : Stuck IsArgumentList Symbol.arguments.Ends pre rest) :
    Stuck IsArgumentList Symbol.arguments.Ends (d.tokens ++ ⟨.comma, comma⟩ :: pre) rest where
  opens := by
    obtain ⟨more, hne, first, args, hargs⟩ := stuck.opens
    exact ⟨more, hne, d, .more comma first args, by simp [Derivation.tokens, hargs]⟩
  refuses := by
    rintro _ after rest' ⟨first, args, rfl⟩ hafter heq
    simp only [List.append_assoc, List.cons_append] at heq
    have hhead : (⟨.comma, comma⟩ :: (pre ++ rest') : List (Token α)).head? =
      (⟨.comma, comma⟩ :: (pre ++ rest) : List (Token α)).head? := rfl
    obtain ⟨-, hmore⟩ := hends.split (args.stops_tokens_more hafter _) hhead heq
    cases args with
    | noMore =>
      obtain ⟨closed, tail, rfl⟩ := hafter
      simp [Derivation.tokens] at hmore
    | more comma' arg args' =>
      exact stuck.refuses ⟨arg, args', rfl⟩ hafter (List.cons.inj hmore).2

/-- After an argument, only a comma or the closing parenthesis can follow. -/
theorem stuck_unclosedArguments {d : Derivation α (.rule .expr)} {rest : List (Token α)}
    (hends : d.EndsBefore rest) (hcomma : ∀ offset after, rest ≠ ⟨.comma, offset⟩ :: after)
    (hclosed : ∀ offset after, rest ≠ ⟨.rightParen, offset⟩ :: after) :
    Stuck IsArgumentList Symbol.arguments.Ends d.tokens rest where
  opens := by
    obtain ⟨arg, -⟩ := Derivation.exists_expr (α := α)
    exact ⟨⟨.comma, 0⟩ :: arg.tokens, nofun, d, .more 0 arg .noMore, by simp [Derivation.tokens]⟩
  refuses := by
    rintro _ after rest' ⟨first, args, rfl⟩ hafter heq hhead
    rw [List.append_assoc] at heq
    obtain ⟨-, rfl⟩ := hends.split (args.stops_tokens_more hafter _) hhead heq
    cases args with
    | noMore =>
      obtain ⟨closed, tail, rfl⟩ := hafter
      obtain ⟨_, hrest⟩ := List.head?_eq_some_iff.mp hhead.symm
      exact hclosed _ _ hrest
    | more comma arg args' =>
      obtain ⟨_, hrest⟩ := List.head?_eq_some_iff.mp hhead.symm
      exact hcomma _ _ hrest

theorem Stuck.call {text : String} {offset opened : Nat} {pre rest : List (Token α)}
    (hclosed : ∀ closed after, pre ++ rest ≠ ⟨.rightParen, closed⟩ :: after)
    (stuck : Stuck IsArgumentList Symbol.arguments.Ends pre rest) :
    Stuck (Symbol.rule .primary).Derives (Symbol.rule .primary).Ends
      (⟨.identifier text, offset⟩ :: ⟨.leftParen, opened⟩ :: pre) rest where
  opens := by
    obtain ⟨more, hne, first, args, hargs⟩ := stuck.opens
    refine ⟨more ++ [⟨.rightParen, 0⟩], by simp, .call text offset opened (.arguments first args) 0, ?_⟩
    simp [Derivation.tokens, hargs]
  refuses := by
    rintro _ after rest' ⟨d', rfl⟩ hafter heq hhead
    cases d' with
    | number value offset' => simp [Derivation.tokens] at heq
    | name text' offset' =>
      simp only [Derivation.tokens, List.cons_append, List.nil_append, List.cons.injEq] at heq
      obtain ⟨-, rfl⟩ := heq
      simp [Symbol.Ends] at hafter
    | call text' offset' opened' args closed =>
      simp only [Derivation.tokens, List.cons_append, List.append_assoc, List.nil_append,
        List.cons.injEq] at heq
      cases args with
      | noArguments =>
        have hfirst : (pre ++ rest).head? = some ⟨.rightParen, closed⟩ := by
          rw [← head?_append_congr hhead, ← heq.2.2]
          rfl
        obtain ⟨tail, htail⟩ := List.head?_eq_some_iff.mp hfirst
        exact hclosed _ _ htail
      | arguments first args =>
        exact stuck.refuses ⟨first, args, rfl⟩ ⟨closed, after, rfl⟩ heq.2.2 hhead
    | group opened' inner closed => simp [Derivation.tokens] at heq

theorem Stuck.group {opened : Nat} {pre rest : List (Token α)}
    (stuck : Stuck (Symbol.rule .expr).Derives (Symbol.rule .expr).Ends pre rest) :
    Stuck (Symbol.rule .primary).Derives (Symbol.rule .primary).Ends (⟨.leftParen, opened⟩ :: pre)
      rest where
  opens := by
    obtain ⟨more, hne, inner, hinner⟩ := stuck.opens
    refine ⟨more ++ [⟨.rightParen, 0⟩], by simp, .group opened inner 0, ?_⟩
    simp [Derivation.tokens, hinner]
  refuses := by
    rintro _ after rest' ⟨d', rfl⟩ hafter heq
    cases d' with
    | group opened' inner closed =>
      simp only [Derivation.tokens, List.cons_append, List.append_assoc, List.nil_append,
        List.cons.injEq] at heq
      exact stuck.refuses ⟨inner, rfl⟩ (stops_rightParen _ closed after) heq.2
    | _ => simp [Derivation.tokens] at heq

/-- After a whole expression, only the closing parenthesis can follow. -/
theorem stuck_unclosedGroup {opened : Nat} {d : Derivation α (.rule .expr)} {rest : List (Token α)}
    (hends : d.EndsBefore rest)
    (hclosed : ∀ offset after, rest ≠ ⟨.rightParen, offset⟩ :: after) :
    Stuck (Symbol.rule .primary).Derives (Symbol.rule .primary).Ends
      (⟨.leftParen, opened⟩ :: d.tokens) rest where
  opens := ⟨[⟨.rightParen, 0⟩], nofun, .group opened d 0, rfl⟩
  refuses := by
    rintro _ after rest' ⟨d', rfl⟩ hafter heq hhead
    cases d' with
    | group opened' inner closed =>
      simp only [Derivation.tokens, List.cons_append, List.append_assoc, List.nil_append,
        List.cons.injEq] at heq
      obtain ⟨-, rfl⟩ := hends.split (stops_rightParen _ closed after) hhead heq.2
      obtain ⟨_, hrest⟩ := List.head?_eq_some_iff.mp hhead.symm
      exact hclosed _ _ hrest
    | _ => simp [Derivation.tokens] at heq

/-- Nothing of a rule is read where a token stands with which it cannot start, or none at all. -/
theorem stuck_start {r : Rule} {rest : List (Token α)}
    (hopens : ∃ more, more ≠ [] ∧ (Symbol.rule r).Derives (more : List (Token α)))
    (hstart : ∀ t ∈ rest.head?, ¬ r.Starts t.kind) :
    Stuck (Symbol.rule r).Derives (Symbol.rule r).Ends [] rest where
  opens := hopens
  refuses := by
    rintro _ after rest' ⟨d', rfl⟩ hafter heq hhead
    obtain ⟨t, ts, htokens, hstarts⟩ := d'.exists_tokens_eq_cons
    rw [htokens, List.nil_append] at heq
    rw [← heq] at hhead
    exact hstart t hhead.symm hstarts

theorem Stuck.postfixed {pre rest : List (Token α)}
    (stuck : Stuck (Symbol.rule .primary).Derives (Symbol.rule .primary).Ends pre rest) :
    Stuck (Symbol.rule .postfixed).Derives (Symbol.rule .postfixed).Ends pre rest where
  opens := by
    obtain ⟨more, hne, d, hd⟩ := stuck.opens
    exact ⟨more, hne, .postfixed d [], by simp [Derivation.tokens, markTokens, hd]⟩
  refuses := by
    rintro _ after rest' ⟨d', rfl⟩ hafter heq
    cases d' with
    | postfixed operand marks =>
      rw [Derivation.tokens, List.append_assoc] at heq
      exact stuck.refuses ⟨operand, rfl⟩ (stops_markTokens hafter marks) heq

theorem Stuck.negated {offset : Nat} {pre rest : List (Token α)}
    (stuck : Stuck (Symbol.rule .postfixed).Derives (Symbol.rule .postfixed).Ends pre rest) :
    Stuck (Symbol.rule .unary).Derives (Symbol.rule .unary).Ends (⟨.operator '-', offset⟩ :: pre)
      rest where
  opens := by
    obtain ⟨more, hne, d, hd⟩ := stuck.opens
    exact ⟨more, hne, .negated offset d, congrArg (List.cons _) hd⟩
  refuses := by
    rintro _ after rest' ⟨d', rfl⟩ hafter heq
    cases d' with
    | unsigned operand => exact absurd heq (operand.tokens_append_ne_cons (by simp [Rule.Starts]) _ _)
    | negated offset' operand => exact stuck.refuses ⟨operand, rfl⟩ hafter (List.cons.inj heq).2

theorem Stuck.unsigned {pre rest : List (Token α)}
    (hsign : ∀ offset after, pre ++ rest ≠ ⟨.operator '-', offset⟩ :: after)
    (stuck : Stuck (Symbol.rule .postfixed).Derives (Symbol.rule .postfixed).Ends pre rest) :
    Stuck (Symbol.rule .unary).Derives (Symbol.rule .unary).Ends pre rest where
  opens := by
    obtain ⟨more, hne, d, hd⟩ := stuck.opens
    exact ⟨more, hne, .unsigned d, hd⟩
  refuses := by
    rintro _ after rest' ⟨d', rfl⟩ hafter heq hhead
    cases d' with
    | unsigned operand => exact stuck.refuses ⟨operand, rfl⟩ hafter heq hhead
    | negated offset operand =>
      have hfirst : (pre ++ rest).head? = some ⟨.operator '-', offset⟩ := by
        rw [← head?_append_congr hhead, ← heq]
        rfl
      obtain ⟨tail, htail⟩ := List.head?_eq_some_iff.mp hfirst
      exact hsign _ _ htail

theorem Stuck.base {pre rest : List (Token α)}
    (stuck : Stuck (Symbol.rule .unary).Derives (Symbol.rule .unary).Ends pre rest) :
    Stuck (Symbol.rule .factor).Derives (Symbol.rule .factor).Ends pre rest where
  opens := by
    obtain ⟨more, hne, d, hd⟩ := stuck.opens
    exact ⟨more, hne, .plain d, hd⟩
  refuses := by
    rintro _ after rest' ⟨d', rfl⟩ hafter heq
    cases d' with
    | plain base => exact stuck.refuses ⟨base, rfl⟩ (hafter.mono (by decide)) heq
    | power base offset exponent =>
      rw [Derivation.tokens, List.append_assoc] at heq
      exact stuck.refuses ⟨base, rfl⟩ (ends_unary_power _ _) heq

/-- Stuck in the exponent after a base. -/
theorem Stuck.exponent {d : Derivation α (.rule .unary)} {offset : Nat} {pre rest : List (Token α)}
    (hends : d.EndsBefore (⟨.operator '^', offset⟩ :: (pre ++ rest)))
    (stuck : Stuck (Symbol.rule .factor).Derives (Symbol.rule .factor).Ends pre rest) :
    Stuck (Symbol.rule .factor).Derives (Symbol.rule .factor).Ends
      (d.tokens ++ ⟨.operator '^', offset⟩ :: pre) rest where
  opens := by
    obtain ⟨more, hne, exponent, hexponent⟩ := stuck.opens
    exact ⟨more, hne, .power d offset exponent, by simp [Derivation.tokens, hexponent]⟩
  refuses := by
    rintro _ after rest' ⟨d', rfl⟩ hafter heq
    have hhead : (⟨.operator '^', offset⟩ :: (pre ++ rest') : List (Token α)).head? =
      (⟨.operator '^', offset⟩ :: (pre ++ rest) : List (Token α)).head? := rfl
    cases d' with
    | plain base =>
      simp only [Derivation.tokens, List.append_assoc, List.cons_append] at heq
      obtain ⟨-, rfl⟩ := hends.split (hafter.mono (by decide)) hhead heq
      exact absurd hafter (not_ends_factor_power _ _)
    | power base offset' exponent =>
      simp only [Derivation.tokens, List.append_assoc, List.cons_append] at heq
      obtain ⟨-, hexponent⟩ := hends.split (ends_unary_power _ _) hhead heq
      exact stuck.refuses ⟨exponent, rfl⟩ hafter (List.cons.inj hexponent).2

/-- The tokens before `rest` can still become an expression; those up to its first token cannot, or
they are all and no expression yet. -/
structure IsBroken (pre rest : List (Token α)) : Prop where
  viable : IsViable pre
  notViable : ∀ t after, rest = t :: after → ¬ IsViable (pre ++ [t])
  unfinished : rest = [] → ¬ IsSentence pre

theorem Stuck.isBroken {pre rest : List (Token α)}
    (stuck : Stuck (Symbol.rule .expr).Derives (Symbol.rule .expr).Ends pre rest) :
    IsBroken pre rest where
  viable := by
    obtain ⟨more, -, hmore⟩ := stuck.opens
    exact ⟨more, hmore⟩
  notViable := by
    rintro t after rfl ⟨more, hmore⟩
    rw [List.append_assoc] at hmore
    exact stuck.refuses hmore (stops_nil _) (List.append_nil _) rfl
  unfinished := by
    rintro rfl hpre
    exact stuck.refuses hpre (stops_nil _) (rfl : pre ++ [] = pre ++ []) rfl

theorem isBroken_of_endsBefore {d : Derivation α (.rule .expr)} {t : Token α}
    {after : List (Token α)} (hends : d.EndsBefore (t :: after)) : IsBroken d.tokens (t :: after) where
  viable := ⟨[], d, (List.append_nil _).symm⟩
  notViable := by
    rintro _ _ ⟨⟩ ⟨more, d', hd'⟩
    rw [List.append_assoc] at hd'
    exact absurd (hends d' _ hd' rfl) nofun
  unfinished := nofun

end Grammar

end Reckoner
