import Reckoner.Expr
import Reckoner.Limits
import Reckoner.Token.Scan

/-!
# Parsing expressions

```text
expr    := term (('+'|'-') term)*
term    := factor (('*'|'/') factor)*
factor  := unary ('^' factor)?
unary   := '-'? postfix
postfix := primary '!'*
primary := number | identifier ('(' args ')')? | '(' expr ')'
args    := (expr (',' expr)*)?
```

Unary minus binds tighter than `^`, so `-2^2` is `(-2)^2`. A parser carries the proof that it uses
up at least one token, which is what ends the loops; the only recursion between the rules goes one
level of nesting down and is bounded by `maxDepth`. A tree higher than `maxDepth` is refused at the
token that makes it too high.
-/

namespace Reckoner.Expr

variable {α : Type}

/-- A tree, its height, and the tokens after it. -/
structure Parsed (α : Type) where
  tree : Expr α
  height : Nat
  rest : List (Token α)

/-- A reader of expressions from the front of a list of tokens. -/
structure Parser (α : Type) where
  run : List (Token α) → Answer α (Parsed α)
  /-- At least one token is used up. -/
  progress : ∀ ts p, run ts = .ok p → p.rest.length < ts.length

def tooDeep {β : Type} (offset : Nat) : Answer α β :=
  .error ((Cause.malformed .tooDeep).at offset)

/-- The height of a node over a subtree of the given height, placed by the token at `offset`. -/
def grow (height offset : Nat) : Answer α Nat :=
  if height + 1 > maxDepth then tooDeep offset else .ok (height + 1)

/-- An operator of `ops` at the front, with its offset and the tokens after it. -/
def takeBinary? (ops : List BinaryOperator) :
    List (Token α) → Option (BinaryOperator × Nat × List (Token α))
  | ⟨.operator symbol, offset⟩ :: rest =>
    match BinaryOperator.ofSymbol? symbol with
    | some op => if ops.contains op then some (op, offset, rest) else none
    | none => none
  | _ => none

theorem length_of_takeBinary? {ops : List BinaryOperator} {ts rest : List (Token α)}
    {op : BinaryOperator} {offset : Nat} (h : takeBinary? ops ts = some (op, offset, rest)) :
    rest.length < ts.length := by
  unfold takeBinary? at h
  split at h
  · split at h
    · split at h
      · simp only [Option.some.injEq, Prod.mk.injEq] at h
        obtain ⟨-, -, rfl⟩ := h
        simp
      · simp at h
    · simp at h
  · simp at h

/-- Extends `left` by operators of `ops` and operands for as long as they follow. -/
def chainFrom (ops : List BinaryOperator) (operand : Parser α) (left : Expr α) (height : Nat)
    (ts : List (Token α)) : Answer α (Parsed α) :=
  match _hop : takeBinary? ops ts with
  | none => .ok ⟨left, height, ts⟩
  | some (op, offset, afterOp) =>
    match _hright : operand.run afterOp with
    | .error failure => .error failure
    | .ok right =>
      match grow (max height right.height) offset with
      | .error failure => .error failure
      | .ok height => chainFrom ops operand (.binary op left right.tree) height right.rest
termination_by ts.length
decreasing_by
  have := operand.progress _ _ _hright
  have := length_of_takeBinary? _hop
  omega

theorem length_of_chainFrom {ops : List BinaryOperator} {operand : Parser α} {left : Expr α}
    {height : Nat} {ts : List (Token α)} {p : Parsed α}
    (h : chainFrom ops operand left height ts = .ok p) : p.rest.length ≤ ts.length := by
  fun_induction chainFrom ops operand left height ts with
  | case1 => simp only [Except.ok.injEq] at h; subst h; simp
  | case2 => simp at h
  | case3 => simp at h
  | case4 left height ts op offset afterOp hop right hright height' hgrow ih =>
    have := ih h
    have := operand.progress _ _ hright
    have := length_of_takeBinary? hop
    omega

/-- Operands joined by operators of `ops`, grouped to the left. -/
def chain (ops : List BinaryOperator) (operand : Parser α) : Parser α where
  run ts :=
    match operand.run ts with
    | .error failure => .error failure
    | .ok first => chainFrom ops operand first.tree first.height first.rest
  progress ts p h := by
    split at h
    · simp at h
    · rename_i first hfirst
      have := operand.progress _ _ hfirst
      have := length_of_chainFrom h
      omega

/-- Sums and differences of products and quotients of factors. -/
def sumsOf (factor : Parser α) : Parser α := chain [.add, .sub] (chain [.mul, .div] factor)

/-- The failure for the parenthesis opened at `opened`, at the first token that should close it. -/
def missingParen {β : Type} (sourceLength opened : Nat) (ts : List (Token α)) : Answer α β :=
  let position := match ts with
    | t :: _ => t.offset
    | [] => sourceLength
  .error ((Cause.malformed (.missingParen opened)).at position)

/-- Arguments up to and including the closing parenthesis. -/
structure ParsedArgs (α : Type) where
  args : List (Expr α)
  /-- The height of the tallest argument. -/
  height : Nat
  rest : List (Token α)

/-- One or more arguments, separated by commas, of the call whose name stands at `opened`. -/
def argsFrom (sourceLength opened : Nat) (arg : Parser α) (ts : List (Token α)) :
    Answer α (ParsedArgs α) :=
  match _harg : arg.run ts with
  | .error failure => .error failure
  | .ok first =>
    match _hrest : first.rest with
    | ⟨.comma, _⟩ :: afterComma =>
      match argsFrom sourceLength opened arg afterComma with
      | .error failure => .error failure
      | .ok more => .ok ⟨first.tree :: more.args, max first.height more.height, more.rest⟩
    | ⟨.rightParen, _⟩ :: rest => .ok ⟨[first.tree], first.height, rest⟩
    | ts => missingParen sourceLength opened ts
termination_by ts.length
decreasing_by
  have := arg.progress _ _ _harg
  simp only [_hrest, List.length_cons] at this
  omega

theorem length_of_argsFrom {sourceLength opened : Nat} {arg : Parser α} {ts : List (Token α)}
    {p : ParsedArgs α} (h : argsFrom sourceLength opened arg ts = .ok p) :
    p.rest.length < ts.length := by
  fun_induction argsFrom sourceLength opened arg ts generalizing p with
  | case1 => simp at h
  | case2 => simp at h
  | case3 ts first harg offset afterComma hrest more hmore ih =>
    simp only [Except.ok.injEq] at h
    subst h
    have := ih hmore
    have := arg.progress _ _ harg
    simp only [hrest, List.length_cons] at this
    simp only
    omega
  | case4 ts first harg offset rest hrest =>
    simp only [Except.ok.injEq] at h
    subst h
    have := arg.progress _ _ harg
    simp only [hrest, List.length_cons] at this
    simp only
    omega
  | case5 => simp [missingParen] at h

/-- The arguments of a call, possibly none. -/
def callArgs (sourceLength opened : Nat) (arg : Parser α) (ts : List (Token α)) :
    Answer α (ParsedArgs α) :=
  match ts with
  | ⟨.rightParen, _⟩ :: rest => .ok ⟨[], 0, rest⟩
  | ts => argsFrom sourceLength opened arg ts

theorem length_of_callArgs {sourceLength opened : Nat} {arg : Parser α} {ts : List (Token α)}
    {p : ParsedArgs α} (h : callArgs sourceLength opened arg ts = .ok p) :
    p.rest.length < ts.length := by
  unfold callArgs at h
  split at h
  · simp only [Except.ok.injEq] at h
    subst h
    simp
  · exact length_of_argsFrom h

/-- A number, a name, a call or an expression in parentheses. `inner` reads what stands inside
parentheses, one level of nesting down; at the deepest level there is none. -/
def primary (sourceLength : Nat) (inner : Option (Parser α)) : Parser α where
  run
    | [] => .error ((Cause.malformed .unexpectedEnd).at sourceLength)
    | ⟨.number value, _⟩ :: rest => .ok ⟨.literal value, 1, rest⟩
    | ⟨.identifier name, offset⟩ :: ⟨.leftParen, _⟩ :: rest =>
      match inner with
      | none => tooDeep offset
      | some inner =>
        match callArgs sourceLength offset inner rest with
        | .error failure => .error failure
        | .ok p =>
          match grow p.height offset with
          | .error failure => .error failure
          | .ok height => .ok ⟨.call name p.args offset, height, p.rest⟩
    | ⟨.identifier name, offset⟩ :: rest => .ok ⟨.variableRef name offset, 1, rest⟩
    | ⟨.leftParen, offset⟩ :: rest =>
      match inner with
      | none => tooDeep offset
      | some inner =>
        match inner.run rest with
        | .error failure => .error failure
        | .ok p =>
          match p.rest with
          | ⟨.rightParen, _⟩ :: rest => .ok ⟨p.tree, p.height, rest⟩
          | ts => missingParen sourceLength offset ts
    | ⟨kind, offset⟩ :: _ => .error ((Cause.malformed (.unexpectedToken kind)).at offset)
  progress ts p h := by
    split at h
    · simp at h
    · simp only [Except.ok.injEq] at h; subst h; simp
    · split at h
      · simp [tooDeep] at h
      · split at h
        · simp at h
        · rename_i hargs
          split at h
          · simp at h
          · simp only [Except.ok.injEq] at h
            subst h
            have := length_of_callArgs hargs
            simp only [List.length_cons]
            omega
    · simp only [Except.ok.injEq] at h; subst h; simp
    · split at h
      · simp [tooDeep] at h
      · rename_i inner
        split at h
        · simp at h
        · rename_i hinner
          split at h
          · rename_i hrest
            simp only [Except.ok.injEq] at h
            subst h
            have := inner.progress _ _ hinner
            simp only [hrest, List.length_cons] at this
            simp only [List.length_cons]
            omega
          · simp [missingParen] at h
    · simp at h

/-- Puts the factorial marks that follow onto a tree. -/
def factorialsFrom (tree : Expr α) (height : Nat) : List (Token α) → Answer α (Parsed α)
  | ⟨.operator '!', offset⟩ :: rest =>
    match grow height offset with
    | .error failure => .error failure
    | .ok height => factorialsFrom (.unary (.factorial offset) tree) height rest
  | ts => .ok ⟨tree, height, ts⟩

theorem length_of_factorialsFrom {tree : Expr α} {height : Nat} {ts : List (Token α)}
    {p : Parsed α} (h : factorialsFrom tree height ts = .ok p) : p.rest.length ≤ ts.length := by
  fun_induction factorialsFrom tree height ts with
  | case1 => simp at h
  | case2 tree height offset rest height' hgrow ih =>
    have := ih h
    simp only [List.length_cons]
    omega
  | case3 => simp only [Except.ok.injEq] at h; subst h; simp

/-- An operand and the factorial marks after it. -/
def postfixed (operand : Parser α) : Parser α where
  run ts :=
    match operand.run ts with
    | .error failure => .error failure
    | .ok p => factorialsFrom p.tree p.height p.rest
  progress ts p h := by
    split at h
    · simp at h
    · rename_i hoperand
      have := operand.progress _ _ hoperand
      have := length_of_factorialsFrom h
      omega

/-- An operand with at most one minus sign before it. -/
def signed (operand : Parser α) : Parser α where
  run
    | ⟨.operator '-', offset⟩ :: rest =>
      match operand.run rest with
      | .error failure => .error failure
      | .ok p =>
        match grow p.height offset with
        | .error failure => .error failure
        | .ok height => .ok ⟨.unary .neg p.tree, height, p.rest⟩
    | ts => operand.run ts
  progress ts p h := by
    split at h
    · split at h
      · simp at h
      · rename_i hoperand
        split at h
        · simp at h
        · simp only [Except.ok.injEq] at h
          subst h
          have := operand.progress _ _ hoperand
          simp only [List.length_cons]
          omega
    · exact operand.progress _ _ h

/-- A base with an optional exponent, which `exponent` reads one level of nesting down. -/
def raised (base : Parser α) (exponent : Option (Parser α)) : Parser α where
  run ts :=
    match base.run ts with
    | .error failure => .error failure
    | .ok p =>
      match takeBinary? [.pow] p.rest with
      | none => .ok p
      | some (op, offset, afterOp) =>
        match exponent with
        | none => tooDeep offset
        | some exponent =>
          match exponent.run afterOp with
          | .error failure => .error failure
          | .ok q =>
            match grow (max p.height q.height) offset with
            | .error failure => .error failure
            | .ok height => .ok ⟨.binary op p.tree q.tree, height, q.rest⟩
  progress ts p h := by
    split at h
    · simp at h
    · rename_i q hbase
      have := base.progress _ _ hbase
      split at h
      · simp only [Except.ok.injEq] at h; subst h; exact this
      · rename_i hop
        have := length_of_takeBinary? hop
        split at h
        · simp [tooDeep] at h
        · rename_i exponent
          split at h
          · simp at h
          · rename_i hexp
            have := exponent.progress _ _ hexp
            split at h
            · simp at h
            · simp only [Except.ok.injEq] at h
              subst h
              simp only
              omega

/-- Factors, given the reader of factors one level of nesting down. -/
def factorWithin (sourceLength : Nat) (inner : Option (Parser α)) : Parser α :=
  raised (signed (postfixed (primary sourceLength (inner.map sumsOf)))) inner

/-- Factors that nest at most `levels` levels deep. -/
def factor (sourceLength : Nat) : (levels : Nat) → Parser α
  | 0 => factorWithin sourceLength none
  | levels + 1 => factorWithin sourceLength (some (factor sourceLength levels))

/-- Whole expressions within the nesting limit. -/
def sums (sourceLength : Nat) : Parser α := sumsOf (factor sourceLength maxDepth)

/-- The failure for a token after a complete expression. -/
def leftover (t : Token α) : Failure α :=
  match t.kind with
  | .rightParen => (Cause.malformed .unmatchedParen).at t.offset
  | kind => (Cause.malformed (.trailingToken kind)).at t.offset

/-- The tree of a whole token list from a source of the given length. -/
def ofTokens (sourceLength : Nat) (ts : List (Token α)) : Answer α (Expr α) :=
  if ts.isEmpty then .error ((Cause.malformed .emptyExpression).at 0)
  else match (sums sourceLength).run ts with
    | .error failure => .error failure
    | .ok p =>
      match p.rest with
      | [] => .ok p.tree
      | t :: _ => .error (leftover t)

/-- The tree of a source. -/
def parse (source : String) : Answer Float (Expr Float) :=
  match tokenize source with
  | .error failure => .error failure
  | .ok ts => ofTokens source.length ts

end Reckoner.Expr
