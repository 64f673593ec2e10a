import Reckoner.Expr
import Reckoner.Token

/-!
# The grammar of expressions

```text
expr    := term (('+'|'-') term)*
term    := factor (('*'|'/') factor)*
factor  := unary ('^' factor)?
unary   := '-'? postfix
postfix := primary '!'*
primary := number | identifier | identifier '(' [expr (',' expr)*] ')' | '(' expr ')'
```

Derivations are data: each application of a rule, with the offset of every token it derives. From a
derivation one reads the tokens it derives, the tree it stands for, and how deeply its groups,
argument lists and exponents enclose one another. Nothing here refers to a way of parsing.
-/

namespace Reckoner

/-- The symbol that an operator is written with. -/
def BinaryOperator.symbol : BinaryOperator → Char
  | add => '+'
  | sub => '-'
  | mul => '*'
  | div => '/'
  | pow => '^'

theorem BinaryOperator.ofSymbol?_eq_some_iff {c : Char} {op : BinaryOperator} :
    BinaryOperator.ofSymbol? c = some op ↔ c = op.symbol := by
  constructor
  · intro h
    unfold BinaryOperator.ofSymbol? at h
    split at h <;> cases h <;> rfl
  · intro h
    subst h
    cases op <;> rfl

theorem BinaryOperator.symbol_injective : Function.Injective BinaryOperator.symbol := by
  intro op op' h
  have hop := BinaryOperator.ofSymbol?_eq_some_iff.mpr h
  exact Option.some.inj ((BinaryOperator.ofSymbol?_eq_some_iff.mpr rfl).symm.trans hop)

namespace Expr

variable {α : Type}

mutual

/-- Leaves have height one, and every operator or call stands one above the tallest tree below it. -/
def height : Expr α → Nat
  | literal _ => 1
  | variableRef _ _ => 1
  | unary _ operand => height operand + 1
  | binary _ left right => max (height left) (height right) + 1
  | call _ args _ => tallest args + 1

/-- The height of the tallest of some trees, zero when there is none. -/
def tallest : List (Expr α) → Nat
  | [] => 0
  | e :: rest => max (height e) (tallest rest)

end

end Expr

namespace Grammar

/-- The two kinds of operator chains: sums of terms and products of factors. -/
inductive Level where
  | sum
  | product

def Level.operators : Level → List BinaryOperator
  | sum => [.add, .sub]
  | product => [.mul, .div]

/-- The rules whose derivations stand for one tree. -/
inductive Rule where
  | chain (level : Level)
  | factor
  | unary
  | postfixed
  | primary

abbrev Rule.expr : Rule := .chain .sum

abbrev Rule.term : Rule := .chain .product

/-- What the operators of a chain join. -/
def Level.operand : Level → Rule
  | sum => .term
  | product => .factor

/-- What can be derived: a rule, or one of the repetitions inside a rule. -/
inductive Symbol where
  | rule (r : Rule)
  /-- Operators of a chain, each with the operand after it. -/
  | links (level : Level)
  /-- What stands between the parentheses of a call. -/
  | arguments
  /-- Arguments after the first, each with the comma before it. -/
  | moreArguments

/-- A derivation, with the offset of every token. -/
inductive Derivation (α : Type) : Symbol → Type where
  | chain {l : Level} (first : Derivation α (.rule l.operand)) (rest : Derivation α (.links l)) :
      Derivation α (.rule (.chain l))
  | noLink {l : Level} : Derivation α (.links l)
  | link {l : Level} (op : BinaryOperator) (mem : op ∈ l.operators) (offset : Nat)
      (right : Derivation α (.rule l.operand)) (rest : Derivation α (.links l)) :
      Derivation α (.links l)
  | plain (base : Derivation α (.rule .unary)) : Derivation α (.rule .factor)
  | power (base : Derivation α (.rule .unary)) (offset : Nat)
      (exponent : Derivation α (.rule .factor)) : Derivation α (.rule .factor)
  | unsigned (operand : Derivation α (.rule .postfixed)) : Derivation α (.rule .unary)
  | negated (offset : Nat) (operand : Derivation α (.rule .postfixed)) : Derivation α (.rule .unary)
  /-- With the offsets of the factorial marks. -/
  | postfixed (operand : Derivation α (.rule .primary)) (marks : List Nat) :
      Derivation α (.rule .postfixed)
  | number (value : α) (offset : Nat) : Derivation α (.rule .primary)
  | name (text : String) (offset : Nat) : Derivation α (.rule .primary)
  | call (text : String) (offset opened : Nat) (args : Derivation α .arguments) (closed : Nat) :
      Derivation α (.rule .primary)
  | group (opened : Nat) (inner : Derivation α (.rule .expr)) (closed : Nat) :
      Derivation α (.rule .primary)
  | noArguments : Derivation α .arguments
  | arguments (first : Derivation α (.rule .expr)) (rest : Derivation α .moreArguments) :
      Derivation α .arguments
  | noMore : Derivation α .moreArguments
  | more (comma : Nat) (arg : Derivation α (.rule .expr)) (rest : Derivation α .moreArguments) :
      Derivation α .moreArguments

/-- What the derivations of a symbol stand for. -/
abbrev Symbol.Value (α : Type) : Symbol → Type
  | rule _ => Expr α
  | links _ => List (BinaryOperator × Expr α)
  | arguments => List (Expr α)
  | moreArguments => List (Expr α)

variable {α : Type}

/-- Joins a tree to operators and the operands after them, grouped to the left. -/
def joined (left : Expr α) (links : List (BinaryOperator × Expr α)) : Expr α :=
  links.foldl (fun left link => .binary link.1 left link.2) left

/-- A tree under factorial marks at some offsets. -/
def marked (operand : Expr α) (marks : List Nat) : Expr α :=
  marks.foldl (fun e offset => .unary (.factorial offset) e) operand

theorem height_le_marked (e : Expr α) (marks : List Nat) : e.height ≤ (marked e marks).height := by
  induction marks generalizing e with
  | nil => exact Nat.le_refl _
  | cons offset marks ih =>
    exact Nat.le_trans (Nat.le_succ _) (ih (.unary (.factorial offset) e))

theorem height_le_joined (left : Expr α) (links : List (BinaryOperator × Expr α)) :
    left.height ≤ (joined left links).height := by
  induction links generalizing left with
  | nil => exact Nat.le_refl _
  | cons link links ih =>
    have hleft : left.height ≤ (Expr.binary link.1 left link.2).height :=
      Nat.le_succ_of_le (Nat.le_max_left _ _)
    exact Nat.le_trans hleft (ih _)

/-- Factorial marks at some offsets. -/
def markTokens (marks : List Nat) : List (Token α) :=
  marks.map fun offset => ⟨.operator '!', offset⟩

namespace Derivation

/-- The tokens derived. -/
@[simp] def tokens {s : Symbol} : Derivation α s → List (Token α)
  | chain first rest => first.tokens ++ rest.tokens
  | noLink => []
  | link op _ offset right rest => ⟨.operator op.symbol, offset⟩ :: (right.tokens ++ rest.tokens)
  | plain base => base.tokens
  | power base offset exponent => base.tokens ++ ⟨.operator '^', offset⟩ :: exponent.tokens
  | unsigned operand => operand.tokens
  | negated offset operand => ⟨.operator '-', offset⟩ :: operand.tokens
  | postfixed operand marks => operand.tokens ++ markTokens marks
  | number value offset => [⟨.number value, offset⟩]
  | name text offset => [⟨.identifier text, offset⟩]
  | call text offset opened args closed =>
    ⟨.identifier text, offset⟩ :: ⟨.leftParen, opened⟩ :: (args.tokens ++ [⟨.rightParen, closed⟩])
  | group opened inner closed => ⟨.leftParen, opened⟩ :: (inner.tokens ++ [⟨.rightParen, closed⟩])
  | noArguments => []
  | arguments first rest => first.tokens ++ rest.tokens
  | noMore => []
  | more comma arg rest => ⟨.comma, comma⟩ :: (arg.tokens ++ rest.tokens)

/-- The tree, or for a repetition the trees, that a derivation stands for. Parentheses leave no
trace in it. -/
def tree {s : Symbol} : Derivation α s → s.Value α
  | chain first rest => joined first.tree rest.tree
  | noLink => []
  | link op _ _ right rest => (op, right.tree) :: rest.tree
  | plain base => base.tree
  | power base _ exponent => .binary .pow base.tree exponent.tree
  | unsigned operand => operand.tree
  | negated _ operand => .unary .neg operand.tree
  | postfixed operand marks => marked operand.tree marks
  | number value _ => .literal value
  | name text offset => .variableRef text offset
  | call text offset _ args _ => .call text args.tree offset
  | group _ inner _ => inner.tree
  | noArguments => []
  | arguments first rest => first.tree :: rest.tree
  | noMore => []
  | more _ arg rest => arg.tree :: rest.tree

/-- For every group, argument list and exponent of a derivation, how many others enclose it. -/
def enclosures {s : Symbol} : Derivation α s → List Nat
  | chain first rest => first.enclosures ++ rest.enclosures
  | noLink => []
  | link _ _ _ right rest => right.enclosures ++ rest.enclosures
  | plain base => base.enclosures
  | power base _ exponent => base.enclosures ++ 0 :: exponent.enclosures.map (· + 1)
  | unsigned operand => operand.enclosures
  | negated _ operand => operand.enclosures
  | postfixed operand _ => operand.enclosures
  | number _ _ => []
  | name _ _ => []
  | call _ _ _ args _ => 0 :: args.enclosures.map (· + 1)
  | group _ inner _ => 0 :: inner.enclosures.map (· + 1)
  | noArguments => []
  | arguments first rest => first.enclosures ++ rest.enclosures
  | noMore => []
  | more _ arg rest => arg.enclosures ++ rest.enclosures

/-- Every group, argument list and exponent is enclosed in fewer than `levels` others. -/
def NestsWithin {s : Symbol} (levels : Nat) (d : Derivation α s) : Prop :=
  ∀ k ∈ d.enclosures, k < levels

variable {n : Nat}

@[simp] theorem nestsWithin_chain {l : Level} (first : Derivation α (.rule l.operand))
    (rest : Derivation α (.links l)) :
    (chain first rest).NestsWithin n ↔ first.NestsWithin n ∧ rest.NestsWithin n :=
  List.forall_mem_append

@[simp] theorem nestsWithin_noLink {l : Level} : (noLink : Derivation α (.links l)).NestsWithin n :=
  List.forall_mem_nil _

@[simp] theorem nestsWithin_link {l : Level} (op : BinaryOperator) (mem : op ∈ l.operators)
    (offset : Nat) (right : Derivation α (.rule l.operand)) (rest : Derivation α (.links l)) :
    (link op mem offset right rest).NestsWithin n ↔ right.NestsWithin n ∧ rest.NestsWithin n :=
  List.forall_mem_append

@[simp] theorem nestsWithin_noArguments : (noArguments : Derivation α .arguments).NestsWithin n :=
  List.forall_mem_nil _

@[simp] theorem nestsWithin_arguments (first : Derivation α (.rule .expr))
    (rest : Derivation α .moreArguments) :
    (arguments first rest).NestsWithin n ↔ first.NestsWithin n ∧ rest.NestsWithin n :=
  List.forall_mem_append

@[simp] theorem nestsWithin_noMore : (noMore : Derivation α .moreArguments).NestsWithin n :=
  List.forall_mem_nil _

/-- Whatever encloses something takes one of the levels. -/
theorem forall_mem_enclosed_iff {ks : List Nat} :
    (∀ k ∈ 0 :: ks.map (· + 1), k < n) ↔ ∃ m, n = m + 1 ∧ ∀ k ∈ ks, k < m := by
  cases n with
  | zero =>
    constructor
    · intro h
      exact absurd (h 0 List.mem_cons_self) (Nat.not_lt_zero 0)
    · rintro ⟨m, hm, -⟩
      cases hm
  | succ m => simp

theorem nestsWithin_call_iff {text : String} {offset opened closed : Nat}
    {args : Derivation α .arguments} :
    (call text offset opened args closed).NestsWithin n ↔ ∃ m, n = m + 1 ∧ args.NestsWithin m :=
  forall_mem_enclosed_iff

theorem nestsWithin_group_iff {opened closed : Nat} {inner : Derivation α (.rule .expr)} :
    (group opened inner closed).NestsWithin n ↔ ∃ m, n = m + 1 ∧ inner.NestsWithin m :=
  forall_mem_enclosed_iff

theorem nestsWithin_power_iff {offset : Nat} {base : Derivation α (.rule .unary)}
    {exponent : Derivation α (.rule .factor)} :
    (power base offset exponent).NestsWithin n ↔
      base.NestsWithin n ∧ ∃ m, n = m + 1 ∧ exponent.NestsWithin m :=
  List.forall_mem_append.trans (and_congr_right fun _ => forall_mem_enclosed_iff)

end Derivation

end Grammar

end Reckoner
