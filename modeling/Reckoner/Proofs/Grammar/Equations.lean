import Reckoner.Expr.Parse

/-!
# The parser step by step

What each loop and each combinator of the parser does next, as an equation for the tokens in front of
it. A step reads what it needs and goes on with the rest.
-/

namespace Reckoner.Expr

variable {α : Type}

/-! ## Chains -/

theorem chainFrom_of_none {ops : List BinaryOperator} {operand : Parser α} {left : Expr α}
    {height : Nat} {ts : List (Token α)} (hop : takeBinary? ops ts = none) :
    chainFrom ops operand left height ts = .ok ⟨left, height, ts⟩ := by
  rw [chainFrom]
  split
  · rfl
  · rename_i hop'
    rw [hop] at hop'
    cases hop'

/-- After an operator, its operand is read and the node is checked for its height. -/
theorem chainFrom_of_take {ops : List BinaryOperator} {operand : Parser α} {left : Expr α}
    {height offset : Nat} {ts afterOp : List (Token α)} {op : BinaryOperator}
    (hop : takeBinary? ops ts = some (op, offset, afterOp)) :
    chainFrom ops operand left height ts = (do
      let right ← operand.run afterOp
      let height ← grow (max height right.height) offset
      chainFrom ops operand (.binary op left right.tree) height right.rest) := by
  rw [chainFrom]
  split
  · rename_i hop'
    rw [hop] at hop'
    cases hop'
  · rename_i hop'
    rw [hop] at hop'
    cases hop'
    split
    · rename_i hright
      rw [hright]
      rfl
    · rename_i right hright
      rw [hright]
      show _ = (grow (max height right.height) offset).bind _
      cases grow (α := α) (max height right.height) offset <;> rfl

theorem chainFrom_of_some {ops : List BinaryOperator} {operand : Parser α} {left : Expr α}
    {height height' : Nat} {ts afterOp : List (Token α)} {op : BinaryOperator} {offset : Nat}
    {right : Parsed α} (hop : takeBinary? ops ts = some (op, offset, afterOp))
    (hright : operand.run afterOp = .ok right)
    (hgrow : (grow (max height right.height) offset : Answer α Nat) = .ok height') :
    chainFrom ops operand left height ts =
      chainFrom ops operand (.binary op left right.tree) height' right.rest := by
  rw [chainFrom_of_take hop, hright]
  show (grow (max height right.height) offset).bind _ = _
  rw [hgrow]
  rfl

theorem chain_run (ops : List BinaryOperator) (operand : Parser α) (ts : List (Token α)) :
    (Expr.chain ops operand).run ts = (do
      let first ← operand.run ts
      chainFrom ops operand first.tree first.height first.rest) := by
  show _ = (operand.run ts).bind _
  simp only [Expr.chain]
  cases operand.run ts <;> rfl

/-! ## Arguments and primaries -/

/-- What follows an argument: more of them, or the end of the call. -/
def argsAfter (sourceLength opened : Nat) (arg : Parser α) (first : Parsed α) :
    List (Token α) → Answer α (ParsedArgs α)
  | ⟨.comma, _⟩ :: afterComma => do
    let more ← argsFrom sourceLength opened arg afterComma
    return ⟨first.tree :: more.args, max first.height more.height, more.rest⟩
  | ⟨.rightParen, _⟩ :: rest => .ok ⟨[first.tree], first.height, rest⟩
  | ts => missingParen sourceLength opened ts

theorem argsFrom_eq (sourceLength opened : Nat) (arg : Parser α) (ts : List (Token α)) :
    argsFrom sourceLength opened arg ts = (do
      let first ← arg.run ts
      argsAfter sourceLength opened arg first first.rest) := by
  rw [argsFrom]
  split
  · rename_i harg
    rw [harg]
    rfl
  · rename_i first harg
    rw [harg]
    show _ = argsAfter sourceLength opened arg first first.rest
    split
    · rename_i offset afterComma hrest
      rw [hrest, argsAfter]
      show _ = (argsFrom sourceLength opened arg afterComma).bind _
      cases argsFrom sourceLength opened arg afterComma <;> rfl
    · rename_i hrest
      rw [hrest, argsAfter]
    · rename_i hcomma hparen
      unfold argsAfter
      split
      · rename_i hrest
        exact absurd hrest (hcomma _ _)
      · rename_i hrest
        exact absurd hrest (hparen _ _)
      · rfl

theorem argsFrom_of_comma {sourceLength opened comma : Nat} {arg : Parser α}
    {ts rest : List (Token α)} {first : Parsed α} (harg : arg.run ts = .ok first)
    (hrest : first.rest = ⟨.comma, comma⟩ :: rest) {more : ParsedArgs α}
    (hmore : argsFrom sourceLength opened arg rest = .ok more) :
    argsFrom sourceLength opened arg ts =
      .ok ⟨first.tree :: more.args, max first.height more.height, more.rest⟩ := by
  rw [argsFrom_eq, harg]
  show argsAfter sourceLength opened arg first first.rest = _
  rw [hrest, argsAfter, hmore]
  rfl

theorem argsFrom_of_rightParen {sourceLength opened closed : Nat} {arg : Parser α}
    {ts rest : List (Token α)} {first : Parsed α} (harg : arg.run ts = .ok first)
    (hrest : first.rest = ⟨.rightParen, closed⟩ :: rest) :
    argsFrom sourceLength opened arg ts = .ok ⟨[first.tree], first.height, rest⟩ := by
  rw [argsFrom_eq, harg]
  show argsAfter sourceLength opened arg first first.rest = _
  rw [hrest, argsAfter]

theorem primary_run_call (sourceLength : Nat) (inner : Parser α) (name : String) (offset opened : Nat)
    (rest : List (Token α)) :
    (Expr.primary sourceLength (some inner)).run
        (⟨.identifier name, offset⟩ :: ⟨.leftParen, opened⟩ :: rest) = (do
      let p ← callArgs sourceLength offset inner rest
      let height ← grow p.height offset
      return ⟨.call name p.args offset, height, p.rest⟩) := by
  show _ = (callArgs sourceLength offset inner rest).bind _
  simp only [Expr.primary]
  cases callArgs sourceLength offset inner rest with
  | error failure => rfl
  | ok p =>
    show _ = (grow p.height offset).bind _
    dsimp only
    cases grow (α := α) p.height offset <;> rfl

/-! ## Factorials, signs and powers -/

theorem factorialsFrom_mark (tree : Expr α) (height offset : Nat) (rest : List (Token α)) :
    factorialsFrom tree height (⟨.operator '!', offset⟩ :: rest) = (do
      let height ← grow height offset
      factorialsFrom (.unary (.factorial offset) tree) height rest) := by
  rw [factorialsFrom]
  show _ = (grow height offset).bind _
  cases grow (α := α) height offset <;> rfl

theorem factorialsFrom_of_ne {kind : Lexeme α} (h : kind ≠ .operator '!') {tree : Expr α}
    {height offset : Nat} {rest : List (Token α)} :
    factorialsFrom tree height (⟨kind, offset⟩ :: rest) = .ok ⟨tree, height, ⟨kind, offset⟩ :: rest⟩ := by
  unfold factorialsFrom
  split
  · rename_i heq
    cases heq
    exact absurd rfl h
  · rfl

theorem postfixed_run (operand : Parser α) (ts : List (Token α)) :
    (Expr.postfixed operand).run ts = (do
      let p ← operand.run ts
      factorialsFrom p.tree p.height p.rest) := by
  show _ = (operand.run ts).bind _
  simp only [Expr.postfixed]
  cases operand.run ts <;> rfl

theorem signed_run_minus (operand : Parser α) (offset : Nat) (rest : List (Token α)) :
    (Expr.signed operand).run (⟨.operator '-', offset⟩ :: rest) = (do
      let p ← operand.run rest
      let height ← grow p.height offset
      return ⟨.unary .neg p.tree, height, p.rest⟩) := by
  show _ = (operand.run rest).bind _
  simp only [Expr.signed]
  cases operand.run rest with
  | error failure => rfl
  | ok p =>
    show _ = (grow p.height offset).bind _
    dsimp only
    cases grow (α := α) p.height offset <;> rfl

theorem signed_run_of_ne {kind : Lexeme α} (h : kind ≠ .operator '-') {operand : Parser α}
    {offset : Nat} {rest : List (Token α)} :
    (Expr.signed operand).run (⟨kind, offset⟩ :: rest) = operand.run (⟨kind, offset⟩ :: rest) := by
  simp only [Expr.signed]
  split
  · rename_i heq
    cases heq
    exact absurd rfl h
  · rfl

theorem raised_run_of_take {base exponent : Parser α} {ts afterOp : List (Token α)} {p : Parsed α}
    {op : BinaryOperator} {offset : Nat} (hbase : base.run ts = .ok p)
    (hop : takeBinary? [.pow] p.rest = some (op, offset, afterOp)) :
    (Expr.raised base (some exponent)).run ts = (do
      let q ← exponent.run afterOp
      let height ← grow (max p.height q.height) offset
      return ⟨.binary op p.tree q.tree, height, q.rest⟩) := by
  show _ = (exponent.run afterOp).bind _
  simp only [Expr.raised, hbase, hop]
  cases exponent.run afterOp with
  | error failure => rfl
  | ok q =>
    show _ = (grow (max p.height q.height) offset).bind _
    dsimp only
    cases grow (α := α) (max p.height q.height) offset <;> rfl

end Reckoner.Expr
