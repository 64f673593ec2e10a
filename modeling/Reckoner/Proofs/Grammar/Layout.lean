import Reckoner.Proofs.Grammar.Reading
import Reckoner.Proofs.Places

/-!
# Parsing does not look at offsets

Two token lists of the same kinds, from sources of any length, are parsed side by side. At every step
both parsers do the same: they stop at the same token for the same reason, or go on with trees that
differ in offsets alone. Every combinator of the parser keeps this.
-/

namespace Reckoner

variable {α : Type}

/-- Tokens of the same kinds in the same order, wherever they stand. -/
inductive SameKinds : List (Token α) → List (Token α) → Prop where
  | nil : SameKinds [] []
  | cons (kind : Lexeme α) (offset offset' : Nat) {ts us : List (Token α)} (rest : SameKinds ts us) :
      SameKinds (⟨kind, offset⟩ :: ts) (⟨kind, offset'⟩ :: us)

theorem sameKinds_of_map_kind_eq {ts us : List (Token α)}
    (h : ts.map Token.kind = us.map Token.kind) : SameKinds ts us := by
  induction ts generalizing us with
  | nil =>
    obtain rfl := List.map_eq_nil_iff.mp h.symm
    exact .nil
  | cons t ts ih =>
    obtain ⟨u, us, rfl, hkind, hrest⟩ := List.map_eq_cons_iff.mp h.symm
    obtain ⟨kind, offset⟩ := t
    obtain ⟨kind', offset'⟩ := u
    obtain rfl : kind' = kind := hkind
    exact .cons kind' offset offset' (ih hrest.symm)

namespace Expr

open Answer

/-- What two parsers have read is the same but for offsets. -/
structure Parsed.Alike (p q : Parsed α) : Prop where
  tree_eq : p.tree.unplaced = q.tree.unplaced
  height_eq : p.height = q.height
  rest : SameKinds p.rest q.rest

structure ParsedArgs.Alike (p q : ParsedArgs α) : Prop where
  args_eq : p.args.map unplaced = q.args.map unplaced
  height_eq : p.height = q.height
  rest : SameKinds p.rest q.rest

/-- The parsers read tokens of the same kinds alike. -/
def Parser.Agrees (P Q : Parser α) : Prop :=
  ∀ ⦃ts us : List (Token α)⦄, SameKinds ts us →
    (P.run ts).Matches Parsed.Alike Failure.Alike (Q.run us)

theorem grow_agrees {height height' : Nat} (h : height = height') (offset offset' : Nat) :
    (grow height offset : Answer α Nat).Matches (· = ·) Failure.Alike (grow height' offset') := by
  subst h
  unfold grow
  split
  · exact .error rfl
  · exact .ok rfl

/-- An operator is taken from both lists, or from neither. -/
theorem takeBinary?_agrees {ts us : List (Token α)} (h : SameKinds ts us)
    (ops : List BinaryOperator) :
    takeBinary? ops ts = none ∧ takeBinary? ops us = none ∨
      ∃ op offset offset' ts' us', takeBinary? ops ts = some (op, offset, ts') ∧
        takeBinary? ops us = some (op, offset', us') ∧ SameKinds ts' us' := by
  cases h with
  | nil => exact .inl ⟨rfl, rfl⟩
  | @cons kind offset offset' ts us rest =>
    cases htake : takeBinary? ops (⟨kind, offset⟩ :: ts) with
    | some taken =>
      obtain ⟨op, place, ts'⟩ := taken
      obtain ⟨hmem, heq⟩ := takeBinary?_eq_some_iff.mp htake
      cases heq
      exact .inr ⟨op, offset, offset', ts, us, rfl, takeBinary?_eq_some_iff.mpr ⟨hmem, rfl⟩, rest⟩
    | none =>
      refine .inl ⟨rfl, ?_⟩
      apply Option.eq_none_iff_forall_ne_some.mpr
      rintro ⟨op, place, us'⟩ hsome
      obtain ⟨hmem, heq⟩ := takeBinary?_eq_some_iff.mp hsome
      cases heq
      have htaken : takeBinary? ops (⟨.operator op.symbol, offset⟩ :: ts) = some (op, offset, ts) :=
        takeBinary?_eq_some_iff.mpr ⟨hmem, rfl⟩
      rw [htake] at htaken
      cases htaken

/-! ## Chains -/

theorem chainFrom_agrees {operand operand' : Parser α} (agrees : operand.Agrees operand')
    (ops : List BinaryOperator) {left left' : Expr α} (hleft : left.unplaced = left'.unplaced)
    {height height' : Nat} (hheight : height = height') {ts us : List (Token α)}
    (h : SameKinds ts us) :
    (chainFrom ops operand left height ts).Matches Parsed.Alike Failure.Alike
      (chainFrom ops operand' left' height' us) := by
  -- Every round of the loop uses up tokens.
  induction hlength : ts.length using Nat.strongRecOn generalizing left left' height height' ts us with
  | ind n ih =>
    obtain ⟨htake, htake'⟩ | ⟨op, offset, offset', ts', us', htake, htake', hrest⟩ := takeBinary?_agrees h ops
    · rw [chainFrom_of_none htake, chainFrom_of_none htake']
      exact .ok ⟨hleft, hheight, h⟩
    · rw [chainFrom_of_take htake, chainFrom_of_take htake']
      apply (agrees hrest).bind
      intro right right' hright hright' alike
      apply (grow_agrees (by rw [hheight, alike.height_eq]) offset offset').bind
      intro grown grown' hgrow hgrow' hgrown
      have hless : right.rest.length < n := by
        have := operand.progress _ _ hright
        have := length_of_takeBinary? htake
        omega
      refine ih _ hless ?_ hgrown alike.rest rfl
      rw [unplaced, unplaced, hleft, alike.tree_eq]

theorem Parser.Agrees.chain {operand operand' : Parser α} (agrees : operand.Agrees operand')
    (ops : List BinaryOperator) : (Expr.chain ops operand).Agrees (Expr.chain ops operand') := by
  intro ts us h
  rw [chain_run, chain_run]
  apply (agrees h).bind
  intro first first' _ _ alike
  exact chainFrom_agrees agrees ops alike.tree_eq alike.height_eq alike.rest

theorem Parser.Agrees.sumsOf {factor factor' : Parser α} (agrees : factor.Agrees factor') :
    (Expr.sumsOf factor).Agrees (Expr.sumsOf factor') :=
  (agrees.chain [.mul, .div]).chain [.add, .sub]

/-! ## Arguments and primaries -/

theorem argsAfter_agrees {arg arg' : Parser α} {sourceLength sourceLength' opened opened' : Nat}
    {first first' : Parsed α} (alike : first.Alike first')
    (hmore : ∀ {ts us : List (Token α)}, ts.length < first.rest.length → SameKinds ts us →
      (argsFrom sourceLength opened arg ts).Matches ParsedArgs.Alike Failure.Alike
        (argsFrom sourceLength' opened' arg' us)) :
    (argsAfter sourceLength opened arg first first.rest).Matches ParsedArgs.Alike Failure.Alike
      (argsAfter sourceLength' opened' arg' first' first'.rest) := by
  obtain ⟨tree, height, ts⟩ := first
  obtain ⟨tree', height', us⟩ := first'
  obtain ⟨htree, hheight, hrest⟩ := alike
  dsimp only at htree hheight hrest hmore ⊢
  subst hheight
  cases hrest with
  | nil => exact .error rfl
  | cons kind offset offset' rest =>
    cases kind with
    | comma =>
      apply (hmore (Nat.lt_succ_self _) rest).bind
      intro more more' _ _ alike
      refine .ok ⟨?_, ?_, alike.rest⟩
      · rw [List.map_cons, List.map_cons, htree, alike.args_eq]
      · rw [alike.height_eq]
    | rightParen => exact .ok ⟨congrArg (fun tree => [tree]) htree, rfl, rest⟩
    | number value => exact .error rfl
    | identifier name => exact .error rfl
    | operator symbol => exact .error rfl
    | leftParen => exact .error rfl

theorem argsFrom_agrees {arg arg' : Parser α} (agrees : arg.Agrees arg')
    (sourceLength sourceLength' opened opened' : Nat) {ts us : List (Token α)} (h : SameKinds ts us) :
    (argsFrom sourceLength opened arg ts).Matches ParsedArgs.Alike Failure.Alike
      (argsFrom sourceLength' opened' arg' us) := by
  induction hlength : ts.length using Nat.strongRecOn generalizing ts us with
  | ind n ih =>
    rw [argsFrom_eq, argsFrom_eq]
    apply (agrees h).bind
    intro first first' hfirst _ alike
    have hless : first.rest.length < n := hlength ▸ arg.progress _ _ hfirst
    exact argsAfter_agrees alike fun hts hkinds => ih _ (Nat.lt_trans hts hless) hkinds rfl

theorem callArgs_agrees {arg arg' : Parser α} (agrees : arg.Agrees arg')
    (sourceLength sourceLength' opened opened' : Nat) {ts us : List (Token α)} (h : SameKinds ts us) :
    (callArgs sourceLength opened arg ts).Matches ParsedArgs.Alike Failure.Alike
      (callArgs sourceLength' opened' arg' us) := by
  have hargs := argsFrom_agrees agrees sourceLength sourceLength' opened opened' h
  cases h with
  | nil => exact hargs
  | cons kind offset offset' rest =>
    cases kind with
    | rightParen => exact .ok ⟨rfl, rfl, rest⟩
    | number value => exact hargs
    | identifier name => exact hargs
    | operator symbol => exact hargs
    | leftParen => exact hargs
    | comma => exact hargs

/-- What reads the inside of an enclosure agrees, or there is none on either side. -/
inductive AgreeInside : Option (Parser α) → Option (Parser α) → Prop where
  | bottom : AgreeInside none none
  | inside {P Q : Parser α} (agrees : P.Agrees Q) : AgreeInside (some P) (some Q)

theorem AgreeInside.sumsOf {inner inner' : Option (Parser α)} (h : AgreeInside inner inner') :
    AgreeInside (inner.map Expr.sumsOf) (inner'.map Expr.sumsOf) := by
  cases h with
  | bottom => exact .bottom
  | inside agrees => exact .inside agrees.sumsOf

theorem primary_call_agrees {inner inner' : Option (Parser α)} (h : AgreeInside inner inner')
    (sourceLength sourceLength' : Nat) (name : String) (offset offset' opened opened' : Nat)
    {ts us : List (Token α)} (hkinds : SameKinds ts us) :
    ((Expr.primary sourceLength inner).run
        (⟨.identifier name, offset⟩ :: ⟨.leftParen, opened⟩ :: ts)).Matches Parsed.Alike Failure.Alike
      ((Expr.primary sourceLength' inner').run
        (⟨.identifier name, offset'⟩ :: ⟨.leftParen, opened'⟩ :: us)) := by
  cases h with
  | bottom => exact .error rfl
  | inside agrees =>
    rw [primary_run_call, primary_run_call]
    apply (callArgs_agrees agrees _ _ _ _ hkinds).bind
    intro args args' _ _ alike
    apply (grow_agrees alike.height_eq _ _).bind
    intro height height' _ _ hheight
    refine .ok ⟨?_, hheight, alike.rest⟩
    rw [unplaced, unplaced, unplacedEach_eq_map, unplacedEach_eq_map, alike.args_eq]

theorem primary_group_agrees {inner inner' : Option (Parser α)} (h : AgreeInside inner inner')
    (sourceLength sourceLength' offset offset' : Nat) {ts us : List (Token α)}
    (hkinds : SameKinds ts us) :
    ((Expr.primary sourceLength inner).run (⟨.leftParen, offset⟩ :: ts)).Matches Parsed.Alike
      Failure.Alike ((Expr.primary sourceLength' inner').run (⟨.leftParen, offset'⟩ :: us)) := by
  cases h with
  | bottom => exact .error rfl
  | inside agrees =>
    obtain ⟨p, q, hp, hq, alike⟩ | ⟨f, g, hf, hg, related⟩ := (agrees hkinds).dest
    · obtain ⟨tree, height, ts⟩ := p
      obtain ⟨tree', height', us⟩ := q
      obtain ⟨htree, hheight, hrest⟩ := alike
      simp only [Expr.primary, hp, hq]
      dsimp only at htree hheight hrest
      cases hrest with
      | nil => exact .error rfl
      | cons kind place place' rest =>
        cases kind with
        | rightParen => exact .ok ⟨htree, hheight, rest⟩
        | number value => exact .error rfl
        | identifier name => exact .error rfl
        | operator symbol => exact .error rfl
        | leftParen => exact .error rfl
        | comma => exact .error rfl
    · simp only [Expr.primary, hf, hg]
      exact .error related

theorem AgreeInside.primary {inner inner' : Option (Parser α)} (h : AgreeInside inner inner')
    (sourceLength sourceLength' : Nat) :
    (Expr.primary sourceLength inner).Agrees (Expr.primary sourceLength' inner') := by
  intro ts us hkinds
  cases hkinds with
  | nil => exact .error rfl
  | cons kind offset offset' rest =>
    cases kind with
    | number value => exact .ok ⟨rfl, rfl, rest⟩
    | leftParen => exact primary_group_agrees h _ _ _ _ rest
    | operator symbol => exact .error rfl
    | rightParen => exact .error rfl
    | comma => exact .error rfl
    | identifier name =>
      -- Only a parenthesis behind the name makes it a call.
      cases rest with
      | nil => exact .ok ⟨rfl, rfl, .nil⟩
      | cons kind place place' rest =>
        cases kind with
        | leftParen => exact primary_call_agrees h _ _ _ _ _ _ _ rest
        | number value => exact .ok ⟨rfl, rfl, .cons _ _ _ rest⟩
        | identifier text => exact .ok ⟨rfl, rfl, .cons _ _ _ rest⟩
        | operator symbol => exact .ok ⟨rfl, rfl, .cons _ _ _ rest⟩
        | rightParen => exact .ok ⟨rfl, rfl, .cons _ _ _ rest⟩
        | comma => exact .ok ⟨rfl, rfl, .cons _ _ _ rest⟩

/-! ## Signs, factorials and powers -/

theorem factorialsFrom_agrees {tree tree' : Expr α} (htree : tree.unplaced = tree'.unplaced)
    {height height' : Nat} (hheight : height = height') {ts us : List (Token α)}
    (h : SameKinds ts us) :
    (factorialsFrom tree height ts).Matches Parsed.Alike Failure.Alike
      (factorialsFrom tree' height' us) := by
  induction h generalizing tree tree' height height' with
  | nil => exact .ok ⟨htree, hheight, .nil⟩
  | cons kind offset offset' rest ih =>
    by_cases hmark : kind = .operator '!'
    · subst hmark
      rw [factorialsFrom_mark, factorialsFrom_mark]
      apply (grow_agrees hheight _ _).bind
      intro grown grown' _ _ hgrown
      refine ih ?_ hgrown
      rw [unplaced, unplaced, htree]
      rfl
    · rw [factorialsFrom_of_ne hmark, factorialsFrom_of_ne hmark]
      exact .ok ⟨htree, hheight, .cons _ _ _ rest⟩

theorem Parser.Agrees.postfixed {operand operand' : Parser α} (agrees : operand.Agrees operand') :
    (Expr.postfixed operand).Agrees (Expr.postfixed operand') := by
  intro ts us h
  rw [postfixed_run, postfixed_run]
  apply (agrees h).bind
  intro p q _ _ alike
  exact factorialsFrom_agrees alike.tree_eq alike.height_eq alike.rest

theorem Parser.Agrees.signed {operand operand' : Parser α} (agrees : operand.Agrees operand') :
    (Expr.signed operand).Agrees (Expr.signed operand') := by
  intro ts us h
  cases h with
  | nil => exact agrees .nil
  | cons kind offset offset' rest =>
    by_cases hminus : kind = .operator '-'
    · subst hminus
      rw [signed_run_minus, signed_run_minus]
      apply (agrees rest).bind
      intro p q _ _ alike
      apply (grow_agrees alike.height_eq _ _).bind
      intro height height' _ _ hheight
      refine .ok ⟨?_, hheight, alike.rest⟩
      rw [unplaced, unplaced, alike.tree_eq]
    · rw [signed_run_of_ne hminus, signed_run_of_ne hminus]
      exact agrees (.cons _ _ _ rest)

theorem Parser.Agrees.raised {base base' : Parser α} (agrees : base.Agrees base')
    {exponent exponent' : Option (Parser α)} (h : AgreeInside exponent exponent') :
    (Expr.raised base exponent).Agrees (Expr.raised base' exponent') := by
  intro ts us hkinds
  obtain ⟨p, q, hp, hq, alike⟩ | ⟨f, g, hf, hg, related⟩ := (agrees hkinds).dest
  · obtain ⟨htake, htake'⟩ | ⟨op, offset, offset', ts', us', htake, htake', hrest⟩ :=
      takeBinary?_agrees alike.rest [.pow]
    · simp only [Expr.raised, hp, hq, htake, htake']
      exact .ok alike
    · cases h with
      | bottom =>
        simp only [Expr.raised, hp, hq, htake, htake']
        exact .error rfl
      | inside hexponent =>
        rw [raised_run_of_take hp htake, raised_run_of_take hq htake']
        apply (hexponent hrest).bind
        intro r r' _ _ alike'
        have hmax : max p.height r.height = max q.height r'.height := by
          rw [alike.height_eq, alike'.height_eq]
        apply (grow_agrees hmax _ _).bind
        intro height height' _ _ hheight
        refine .ok ⟨?_, hheight, alike'.rest⟩
        rw [unplaced, unplaced, alike.tree_eq, alike'.tree_eq]
  · simp only [Expr.raised, hf, hg]
    exact .error related

/-! ## Whole expressions -/

theorem AgreeInside.factorWithin {inner inner' : Option (Parser α)} (h : AgreeInside inner inner')
    (sourceLength sourceLength' : Nat) :
    (Expr.factorWithin sourceLength inner).Agrees (Expr.factorWithin sourceLength' inner') :=
  ((h.sumsOf.primary sourceLength sourceLength').postfixed.signed).raised h

theorem factor_agrees (sourceLength sourceLength' levels : Nat) :
    (factor sourceLength levels : Parser α).Agrees (factor sourceLength' levels) := by
  induction levels with
  | zero => exact AgreeInside.bottom.factorWithin sourceLength sourceLength'
  | succ levels ih => exact (AgreeInside.inside ih).factorWithin sourceLength sourceLength'

theorem sums_agrees (sourceLength sourceLength' : Nat) :
    (sums sourceLength : Parser α).Agrees (sums sourceLength') :=
  (factor_agrees sourceLength sourceLength' maxDepth).sumsOf

theorem leftover_alike (kind : Lexeme α) (offset offset' : Nat) :
    (leftover ⟨kind, offset⟩).Alike (leftover ⟨kind, offset'⟩) := by
  cases kind <;> rfl

/-- Tokens of the same kinds make trees that are the same but for offsets, or no tree for the same
reason. -/
theorem ofTokens_matches {ts us : List (Token α)} (h : SameKinds ts us)
    (sourceLength sourceLength' : Nat) :
    (ofTokens sourceLength ts).Matches (fun e e' => e.unplaced = e'.unplaced) Failure.Alike
      (ofTokens sourceLength' us) := by
  obtain ⟨p, q, hp, hq, alike⟩ | ⟨f, g, hf, hg, related⟩ := (sums_agrees sourceLength sourceLength' h).dest
  · obtain ⟨tree, height, rest⟩ := p
    obtain ⟨tree', height', rest'⟩ := q
    obtain ⟨htree, -, hrest⟩ := alike
    dsimp only at htree hrest
    cases h with
    | nil => exact .error rfl
    | cons kind offset offset' =>
      simp only [ofTokens, List.isEmpty_cons, Bool.false_eq_true, if_false, hp, hq]
      cases hrest with
      | nil => exact .ok htree
      | cons kind place place' => exact .error (leftover_alike kind place place')
  · cases h with
    | nil => exact .error rfl
    | cons kind offset offset' =>
      simp only [ofTokens, List.isEmpty_cons, Bool.false_eq_true, if_false, hf, hg]
      exact .error related

end Expr

end Reckoner
