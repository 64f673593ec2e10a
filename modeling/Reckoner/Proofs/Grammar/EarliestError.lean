import Reckoner.Proofs.Grammar.Reading
import Reckoner.Proofs.Grammar.Stuck

/-!
# Errors stand at the earliest token

Every parser fails where it is stuck. So an error is never reported later than the first token at
which the source is beyond repair, and never earlier. Only the limit of depth is another matter: it
may end the parsing of tokens that the grammar derives.
-/

namespace Reckoner

namespace Expr

open Grammar

variable {α : Type}

/-- Where a failure before `rest` is reported: at its first token, or at the end of the source. -/
def place (sourceLength : Nat) : List (Token α) → Nat
  | t :: _ => t.offset
  | [] => sourceLength

theorem missingParen_eq {β : Type} (sourceLength opened : Nat) (ts : List (Token α)) :
    (missingParen sourceLength opened ts : Answer α β) =
      .error ((Cause.malformed (.missingParen opened)).at (place sourceLength ts)) := by
  cases ts <;> rfl

/-- Why and where reading a language fails: the tree or the nesting is too deep at some token, or the
reader is stuck at the place reported. -/
inductive Blamed (sourceLength : Nat) (language ends : List (Token α) → Prop)
    (ts : List (Token α)) : Failure α → Prop where
  | tooDeep {t : Token α} (mem : t ∈ ts) :
      Blamed sourceLength language ends ts ((Cause.malformed .tooDeep).at t.offset)
  | stuck {pre rest : List (Token α)} (why : Malformed α) (split : ts = pre ++ rest)
      (stuck : Stuck language ends pre rest) :
      Blamed sourceLength language ends ts ((Cause.malformed why).at (place sourceLength rest))

/-- A failure while reading a part is one while reading the whole. -/
theorem Blamed.lift {sourceLength : Nat} {language ends language' ends' : List (Token α) → Prop}
    {ts : List (Token α)} {f : Failure α} (h : Blamed sourceLength language ends ts f)
    (front : List (Token α))
    (hstuck : ∀ pre rest, ts = pre ++ rest → Stuck language ends pre rest →
      Stuck language' ends' (front ++ pre) rest) :
    Blamed sourceLength language' ends' (front ++ ts) f := by
  cases h with
  | tooDeep mem => exact .tooDeep (List.mem_append_right front mem)
  | @stuck pre rest why split stuck =>
    exact .stuck why (by rw [split, List.append_assoc]) (hstuck pre rest split stuck)

/-- A parser for a rule stops only before a token that no longer derivation goes on with, and fails
only where it is stuck. -/
structure Parser.Blames (P : Parser α) (sourceLength : Nat) (r : Rule) : Prop where
  complete : ∀ {ts : List (Token α)} {p : Parsed α}, P.run ts = .ok p →
    ∃ d : Derivation α (.rule r), d.EndsBefore p.rest ∧ ts = d.tokens ++ p.rest
  blamed : ∀ {ts : List (Token α)} {f : Failure α}, P.run ts = .error f →
    Blamed sourceLength (Symbol.rule r).Derives (Symbol.rule r).Ends ts f

theorem grow_eq_error {height offset : Nat} {f : Failure α}
    (h : (grow height offset : Answer α Nat) = .error f) :
    f = (Cause.malformed .tooDeep).at offset := by
  unfold grow at h
  split at h
  · exact (Except.error.inj h).symm
  · cases h

/-! ## Chains -/

theorem chainFrom_complete_links {l : Level} {operand : Parser α} {sourceLength : Nat}
    (blames : operand.Blames sourceLength l.operand) {left : Expr α} {height : Nat}
    {ts : List (Token α)} {p : Parsed α}
    (h : chainFrom l.operators operand left height ts = .ok p) :
    ∃ d : Derivation α (.links l), d.EndsBefore p.rest ∧ ts = d.tokens ++ p.rest := by
  generalize hops : l.operators = ops at h
  fun_induction chainFrom ops operand left height ts with
  | case1 left height ts hop =>
    cases h
    refine ⟨.noLink, Derivation.endsBefore_noLink fun op mem offset after hrest => ?_, rfl⟩
    -- The chain would have gone on with this operator.
    rw [takeBinary?_eq_some_iff.mpr ⟨hops ▸ mem, hrest⟩] at hop
    cases hop
  | case2 => cases h
  | case3 => cases h
  | case4 left height ts op offset afterOp hop right hright height' hgrow ih =>
    subst hops
    obtain ⟨hmem, rfl⟩ := takeBinary?_eq_some_iff.mp hop
    obtain ⟨dright, hends, rfl⟩ := blames.complete hright
    obtain ⟨drest, hrest, hsplit⟩ := ih h
    rw [hsplit] at hends ⊢
    exact ⟨.link op hmem offset dright drest, hends.link hmem offset hrest,
      by simp [Derivation.tokens]⟩

theorem chainFrom_blamed {l : Level} {operand : Parser α} {sourceLength : Nat}
    (blames : operand.Blames sourceLength l.operand) {left : Expr α} {height : Nat}
    {ts : List (Token α)} {f : Failure α}
    (h : chainFrom l.operators operand left height ts = .error f) :
    Blamed sourceLength (Symbol.links l).Derives (Symbol.links l).Ends ts f := by
  generalize hops : l.operators = ops at h
  fun_induction chainFrom ops operand left height ts with
  | case1 => cases h
  | case2 left height ts op offset afterOp hop failure hright =>
    cases h
    subst hops
    obtain ⟨hmem, rfl⟩ := takeBinary?_eq_some_iff.mp hop
    exact (blames.blamed hright).lift [_] fun pre rest _ stuck => stuck.firstOperand.link hmem offset
  | case3 left height ts op offset afterOp hop right hright failure hgrow =>
    cases h
    obtain ⟨-, rfl⟩ := takeBinary?_eq_some_iff.mp hop
    obtain rfl := grow_eq_error hgrow
    exact .tooDeep List.mem_cons_self
  | case4 left height ts op offset afterOp hop right hright height' hgrow ih =>
    subst hops
    obtain ⟨hmem, rfl⟩ := takeBinary?_eq_some_iff.mp hop
    obtain ⟨d, hends, rfl⟩ := blames.complete hright
    refine (ih h).lift (_ :: d.tokens) fun pre rest hsplit stuck => ?_
    exact (Stuck.afterOperand (hsplit ▸ hends) stuck).link hmem offset

theorem Parser.Blames.chain {l : Level} {operand : Parser α} {sourceLength : Nat}
    (blames : operand.Blames sourceLength l.operand) :
    (Expr.chain l.operators operand).Blames sourceLength (.chain l) where
  complete := by
    intro ts p h
    simp only [Expr.chain] at h
    split at h
    · cases h
    · rename_i first hfirst
      obtain ⟨d, hends, rfl⟩ := blames.complete hfirst
      obtain ⟨links, hlinks, hsplit⟩ := chainFrom_complete_links blames h
      rw [hsplit] at hends ⊢
      exact ⟨.chain d links, hends.chain hlinks, by rw [Derivation.tokens, List.append_assoc]⟩
  blamed := by
    intro ts f h
    simp only [Expr.chain] at h
    split at h
    · rename_i hfirst
      cases h
      exact (blames.blamed hfirst).lift [] fun pre rest _ stuck => stuck.firstOperand
    · rename_i first hfirst
      obtain ⟨d, hends, rfl⟩ := blames.complete hfirst
      refine (chainFrom_blamed blames h).lift d.tokens fun pre rest hsplit stuck => ?_
      exact Stuck.afterOperand (hsplit ▸ hends) stuck

theorem Parser.Blames.sumsOf {factor : Parser α} {sourceLength : Nat}
    (blames : factor.Blames sourceLength .factor) : (sumsOf factor).Blames sourceLength .expr :=
  Parser.Blames.chain (l := .sum) (Parser.Blames.chain (l := .product) blames)

/-! ## Arguments and primaries -/

theorem argsFrom_complete_arguments {sourceLength opened : Nat} {arg : Parser α}
    (blames : arg.Blames sourceLength .expr) {ts : List (Token α)} {p : ParsedArgs α}
    (h : argsFrom sourceLength opened arg ts = .ok p) :
    ∃ us closed, IsArgumentList us ∧ ts = us ++ ⟨.rightParen, closed⟩ :: p.rest := by
  fun_induction argsFrom sourceLength opened arg ts generalizing p with
  | case1 => cases h
  | case2 => cases h
  | case3 ts first harg offset afterComma hrest more hmore ih =>
    cases h
    obtain ⟨d, -, rfl⟩ := blames.complete harg
    obtain ⟨_, closed, ⟨arg', args, rfl⟩, rfl⟩ := ih hmore
    exact ⟨_, closed, ⟨d, .more offset arg' args, rfl⟩, by simp [hrest, Derivation.tokens]⟩
  | case4 ts first harg offset rest hrest =>
    cases h
    obtain ⟨d, -, rfl⟩ := blames.complete harg
    exact ⟨_, offset, ⟨d, .noMore, rfl⟩, by simp [hrest, Derivation.tokens]⟩
  | case5 => cases h

theorem argsFrom_blamed {sourceLength opened : Nat} {arg : Parser α}
    (blames : arg.Blames sourceLength .expr) {ts : List (Token α)} {f : Failure α}
    (h : argsFrom sourceLength opened arg ts = .error f) :
    Blamed sourceLength IsArgumentList Symbol.arguments.Ends ts f := by
  fun_induction argsFrom sourceLength opened arg ts with
  | case1 ts failure harg =>
    cases h
    exact (blames.blamed harg).lift [] fun pre rest _ stuck => stuck.firstArgument
  | case2 ts first harg offset afterComma hrest failure hmore ih =>
    cases h
    obtain ⟨d, hends, rfl⟩ := blames.complete harg
    rw [hrest] at hends ⊢
    have hlift := (ih hmore).lift (d.tokens ++ [⟨.comma, offset⟩]) fun pre rest hsplit stuck => by
      rw [List.append_assoc]
      exact Stuck.afterComma (hsplit ▸ hends) stuck
    simpa using hlift
  | case3 => cases h
  | case4 => cases h
  | case5 ts first harg hcomma hclosed =>
    obtain ⟨d, hends, rfl⟩ := blames.complete harg
    rw [missingParen_eq] at h
    cases h
    exact .stuck _ rfl (stuck_unclosedArguments hends hcomma hclosed)

/-- What reads the inside of an enclosure, if any level is left. -/
def BlamesInside (sourceLength : Nat) (r : Rule) (inner : Option (Parser α)) : Prop :=
  ∀ P ∈ inner, P.Blames sourceLength r

theorem callArgs_complete_arguments {sourceLength opened : Nat} {arg : Parser α}
    (blames : arg.Blames sourceLength .expr) {ts : List (Token α)} {p : ParsedArgs α}
    (h : callArgs sourceLength opened arg ts = .ok p) :
    ∃ (d : Derivation α .arguments) (closed : Nat),
      ts = d.tokens ++ ⟨.rightParen, closed⟩ :: p.rest := by
  unfold callArgs at h
  split at h
  · cases h
    exact ⟨.noArguments, _, rfl⟩
  · obtain ⟨_, closed, ⟨first, args, rfl⟩, hsplit⟩ := argsFrom_complete_arguments blames h
    exact ⟨.arguments first args, closed, hsplit⟩

theorem callArgs_blamed {sourceLength opened : Nat} {arg : Parser α}
    (blames : arg.Blames sourceLength .expr) {ts : List (Token α)} {f : Failure α}
    (h : callArgs sourceLength opened arg ts = .error f) :
    (∀ closed after, ts ≠ ⟨.rightParen, closed⟩ :: after) ∧
      Blamed sourceLength IsArgumentList Symbol.arguments.Ends ts f := by
  unfold callArgs at h
  split at h
  · cases h
  · rename_i hclosed
    exact ⟨hclosed, argsFrom_blamed blames h⟩

section Primary

variable {sourceLength : Nat} {inner : Option (Parser α)}
  (blames : BlamesInside sourceLength .expr inner) {text : String} {offset opened : Nat}
  {rest : List (Token α)}

include blames

theorem primary_call_complete {p : Parsed α}
    (h : (Expr.primary sourceLength inner).run
      (⟨.identifier text, offset⟩ :: ⟨.leftParen, opened⟩ :: rest) = .ok p) :
    ∃ d : Derivation α (.rule .primary), d.EndsBefore p.rest ∧
      ⟨.identifier text, offset⟩ :: ⟨.leftParen, opened⟩ :: rest = d.tokens ++ p.rest := by
  simp only [Expr.primary] at h
  split at h
  · cases h
  · rename_i P
    split at h
    · cases h
    · rename_i args hargs
      split at h
      · cases h
      · cases h
        obtain ⟨d, closed, rfl⟩ := callArgs_complete_arguments (blames P rfl) hargs
        exact ⟨.call text offset opened d closed, Derivation.endsBefore_call _ _ _ _ _ _,
          by simp [Derivation.tokens]⟩

theorem primary_call_blamed {f : Failure α}
    (h : (Expr.primary sourceLength inner).run
      (⟨.identifier text, offset⟩ :: ⟨.leftParen, opened⟩ :: rest) = .error f) :
    Blamed sourceLength (Symbol.rule .primary).Derives (Symbol.rule .primary).Ends
      (⟨.identifier text, offset⟩ :: ⟨.leftParen, opened⟩ :: rest) f := by
  simp only [Expr.primary] at h
  split at h
  · cases h
    exact .tooDeep List.mem_cons_self
  · rename_i P
    split at h
    · rename_i failure hargs
      cases h
      obtain ⟨hclosed, hblamed⟩ := callArgs_blamed (blames P rfl) hargs
      refine hblamed.lift [_, _] fun pre rest hsplit stuck => ?_
      exact stuck.call fun closed after h => hclosed closed after (hsplit.trans h)
    · split at h
      · rename_i failure hgrow
        cases h
        obtain rfl := grow_eq_error hgrow
        exact .tooDeep List.mem_cons_self
      · cases h

theorem primary_group_complete {p : Parsed α}
    (h : (Expr.primary sourceLength inner).run (⟨.leftParen, opened⟩ :: rest) = .ok p) :
    ∃ d : Derivation α (.rule .primary), d.EndsBefore p.rest ∧
      ⟨.leftParen, opened⟩ :: rest = d.tokens ++ p.rest := by
  simp only [Expr.primary] at h
  split at h
  · cases h
  · rename_i P
    split at h
    · cases h
    · rename_i q hinner
      split at h
      · rename_i closed after hclosed
        cases h
        obtain ⟨d, -, rfl⟩ := (blames P rfl).complete hinner
        exact ⟨.group opened d closed, Derivation.endsBefore_group _ _ _ _,
          by simp [Derivation.tokens, hclosed]⟩
      · cases h

theorem primary_group_blamed {f : Failure α}
    (h : (Expr.primary sourceLength inner).run (⟨.leftParen, opened⟩ :: rest) = .error f) :
    Blamed sourceLength (Symbol.rule .primary).Derives (Symbol.rule .primary).Ends
      (⟨.leftParen, opened⟩ :: rest) f := by
  simp only [Expr.primary] at h
  split at h
  · cases h
    exact .tooDeep List.mem_cons_self
  · rename_i P
    split at h
    · rename_i failure hinner
      cases h
      exact ((blames P rfl).blamed hinner).lift [_] fun pre rest _ stuck => stuck.group
    · rename_i q hinner
      split at h
      · cases h
      · rename_i hclosed
        obtain ⟨d, hends, rfl⟩ := (blames P rfl).complete hinner
        rw [missingParen_eq] at h
        cases h
        exact .stuck _ rfl (stuck_unclosedGroup hends hclosed)

end Primary

/-- No primary is read where none starts. -/
theorem stuck_primary {rest : List (Token α)}
    (hstart : ∀ t ∈ rest.head?, ¬ Rule.primary.Starts t.kind) :
    Stuck (Symbol.rule .primary).Derives (Symbol.rule .primary).Ends [] rest :=
  stuck_start ⟨[⟨.identifier "x", 0⟩], List.cons_ne_nil _ _, .name "x" 0, rfl⟩ hstart

theorem BlamesInside.primary {sourceLength : Nat} {inner : Option (Parser α)}
    (blames : BlamesInside sourceLength .expr inner) :
    (Expr.primary sourceLength inner).Blames sourceLength .primary where
  complete := by
    intro ts p h
    have hrun := h
    simp only [Expr.primary] at h
    split at h
    · cases h
    · rename_i value offset rest
      cases h
      exact ⟨.number value offset, Derivation.endsBefore_number _ _ _, rfl⟩
    · exact primary_call_complete blames hrun
    · rename_i text offset rest hopened
      cases h
      exact ⟨.name text offset, Derivation.endsBefore_name text offset fun o us h => hopened o us h, rfl⟩
    · exact primary_group_complete blames hrun
    · cases h
  blamed := by
    intro ts f h
    have hrun := h
    simp only [Expr.primary] at h
    split at h
    · cases h
      have hstuck : Stuck (Symbol.rule .primary).Derives (Symbol.rule .primary).Ends
          ([] : List (Token α)) [] := stuck_primary (by simp)
      exact .stuck .unexpectedEnd rfl hstuck
    · cases h
    · exact primary_call_blamed blames hrun
    · cases h
    · exact primary_group_blamed blames hrun
    · rename_i kind offset rest hnumber hcall hname hgroup
      cases h
      have hstuck : Stuck (Symbol.rule .primary).Derives (Symbol.rule .primary).Ends []
          (⟨kind, offset⟩ :: rest) := by
        refine stuck_primary ?_
        intro t ht hstarts
        obtain rfl := Option.some.inj ht
        cases kind with
        | number value => exact hnumber value rfl
        | identifier name => exact hname name rfl
        | operator symbol => simp [Rule.Starts] at hstarts
        | leftParen => exact hgroup rfl
        | rightParen => exact hstarts
        | comma => exact hstarts
      exact .stuck (.unexpectedToken kind) rfl hstuck

/-! ## Marks, signs and powers -/

theorem factorialsFrom_complete_marks {tree : Expr α} {height : Nat} {ts : List (Token α)}
    {p : Parsed α} (h : factorialsFrom tree height ts = .ok p) :
    (∃ marks, ts = markTokens marks ++ p.rest) ∧
      ∀ offset after, p.rest ≠ ⟨.operator '!', offset⟩ :: after := by
  fun_induction factorialsFrom tree height ts with
  | case1 => cases h
  | case2 tree height offset rest height' hgrow ih =>
    obtain ⟨⟨marks, rfl⟩, hrest⟩ := ih h
    exact ⟨⟨offset :: marks, rfl⟩, hrest⟩
  | case3 tree height ts hmark =>
    cases h
    exact ⟨⟨[], rfl⟩, hmark⟩

theorem factorialsFrom_eq_error {tree : Expr α} {height : Nat} {ts : List (Token α)} {f : Failure α}
    (h : factorialsFrom tree height ts = .error f) :
    ∃ t ∈ ts, f = (Cause.malformed .tooDeep).at t.offset := by
  fun_induction factorialsFrom tree height ts with
  | case1 tree height offset rest failure hgrow =>
    cases h
    exact ⟨_, List.mem_cons_self, grow_eq_error hgrow⟩
  | case2 tree height offset rest height' hgrow ih =>
    obtain ⟨t, hmem, rfl⟩ := ih h
    exact ⟨t, List.mem_cons_of_mem _ hmem, rfl⟩
  | case3 => cases h

theorem Parser.Blames.postfixed {operand : Parser α} {sourceLength : Nat}
    (blames : operand.Blames sourceLength .primary) :
    (Expr.postfixed operand).Blames sourceLength .postfixed where
  complete := by
    intro ts p h
    simp only [Expr.postfixed] at h
    split at h
    · cases h
    · rename_i q hoperand
      obtain ⟨d, hends, rfl⟩ := blames.complete hoperand
      obtain ⟨⟨marks, hmarks⟩, hrest⟩ := factorialsFrom_complete_marks h
      rw [hmarks] at hends ⊢
      exact ⟨.postfixed d marks, hends.postfixed hrest,
        by rw [Derivation.tokens, List.append_assoc]⟩
  blamed := by
    intro ts f h
    simp only [Expr.postfixed] at h
    split at h
    · rename_i failure hoperand
      cases h
      exact (blames.blamed hoperand).lift [] fun pre rest _ stuck => stuck.postfixed
    · rename_i q hoperand
      obtain ⟨d, -, rfl⟩ := blames.complete hoperand
      obtain ⟨t, hmem, rfl⟩ := factorialsFrom_eq_error h
      exact .tooDeep (List.mem_append_right _ hmem)

theorem Parser.Blames.signed {operand : Parser α} {sourceLength : Nat}
    (blames : operand.Blames sourceLength .postfixed) :
    (Expr.signed operand).Blames sourceLength .unary where
  complete := by
    intro ts p h
    simp only [Expr.signed] at h
    split at h
    · rename_i offset rest
      split at h
      · cases h
      · rename_i q hoperand
        split at h
        · cases h
        · cases h
          obtain ⟨d, hends, rfl⟩ := blames.complete hoperand
          exact ⟨.negated offset d, hends.negated offset, rfl⟩
    · obtain ⟨d, hends, rfl⟩ := blames.complete h
      exact ⟨.unsigned d, hends.unsigned, rfl⟩
  blamed := by
    intro ts f h
    simp only [Expr.signed] at h
    split at h
    · rename_i offset rest
      split at h
      · rename_i failure hoperand
        cases h
        exact (blames.blamed hoperand).lift [_] fun pre rest _ stuck => stuck.negated
      · split at h
        · rename_i failure hgrow
          cases h
          obtain rfl := grow_eq_error hgrow
          exact .tooDeep List.mem_cons_self
        · cases h
    · rename_i hsign
      refine (blames.blamed h).lift [] fun pre rest hsplit stuck => ?_
      exact stuck.unsigned fun offset after heq => hsign offset after (hsplit.trans heq)

theorem Parser.Blames.raised {base : Parser α} {exponent : Option (Parser α)} {sourceLength : Nat}
    (blames : base.Blames sourceLength .unary)
    (inside : BlamesInside sourceLength .factor exponent) :
    (Expr.raised base exponent).Blames sourceLength .factor where
  complete := by
    intro ts p h
    simp only [Expr.raised] at h
    split at h
    · cases h
    · rename_i q hbase
      obtain ⟨d, hends, rfl⟩ := blames.complete hbase
      split at h
      · rename_i hop
        cases h
        refine ⟨.plain d, hends.plain fun offset after hrest => ?_, rfl⟩
        have htake : takeBinary? [.pow] p.rest = some (.pow, offset, after) :=
          takeBinary?_eq_some_iff.mpr ⟨List.mem_singleton_self _, hrest⟩
        rw [hop] at htake
        cases htake
      · rename_i op offset afterOp hop
        obtain ⟨hmem, hrest⟩ := takeBinary?_eq_some_iff.mp hop
        obtain rfl := List.mem_singleton.mp hmem
        rw [hrest] at hends ⊢
        split at h
        · cases h
        · rename_i P
          split at h
          · cases h
          · rename_i q' hexponent
            split at h
            · cases h
            · cases h
              obtain ⟨exponent, hexponents, rfl⟩ := (inside P rfl).complete hexponent
              refine ⟨.power d offset exponent, hends.power hexponents, ?_⟩
              simp only [Derivation.tokens, List.append_assoc, List.cons_append]
              rfl
  blamed := by
    intro ts f h
    simp only [Expr.raised] at h
    split at h
    · rename_i failure hbase
      cases h
      exact (blames.blamed hbase).lift [] fun pre rest _ stuck => stuck.base
    · rename_i q hbase
      obtain ⟨d, hends, rfl⟩ := blames.complete hbase
      split at h
      · cases h
      · rename_i op offset afterOp hop
        obtain ⟨hmem, hrest⟩ := takeBinary?_eq_some_iff.mp hop
        obtain rfl := List.mem_singleton.mp hmem
        rw [hrest] at hends ⊢
        split at h
        · cases h
          exact .tooDeep (List.mem_append_right _ List.mem_cons_self)
        · rename_i P
          split at h
          · rename_i failure hexponent
            cases h
            have hlift := ((inside P rfl).blamed hexponent).lift
              (d.tokens ++ [⟨.operator '^', offset⟩]) fun pre rest hsplit stuck => by
                rw [List.append_assoc]
                exact Stuck.exponent (hsplit ▸ hends) stuck
            rw [List.append_assoc] at hlift
            exact hlift
          · split at h
            · rename_i failure hgrow
              cases h
              obtain rfl := grow_eq_error hgrow
              exact .tooDeep (List.mem_append_right _ List.mem_cons_self)
            · cases h

/-! ## Expressions -/

theorem BlamesInside.sumsOf {sourceLength : Nat} {inner : Option (Parser α)}
    (blames : BlamesInside sourceLength .factor inner) :
    BlamesInside sourceLength .expr (inner.map Expr.sumsOf) := by
  intro P hP
  obtain ⟨Q, hQ, rfl⟩ := Option.map_eq_some_iff.mp hP
  exact (blames Q hQ).sumsOf

theorem BlamesInside.factorWithin {sourceLength : Nat} {inner : Option (Parser α)}
    (blames : BlamesInside sourceLength .factor inner) :
    (Expr.factorWithin sourceLength inner).Blames sourceLength .factor :=
  blames.sumsOf.primary.postfixed.signed.raised blames

theorem factor_blames (sourceLength levels : Nat) :
    (factor sourceLength levels : Parser α).Blames sourceLength .factor := by
  induction levels with
  | zero => exact BlamesInside.factorWithin nofun
  | succ levels ih => exact BlamesInside.factorWithin fun P hP => Option.some.inj hP ▸ ih

theorem sums_blames (sourceLength : Nat) : (sums sourceLength : Parser α).Blames sourceLength .expr :=
  (factor_blames sourceLength maxDepth).sumsOf

theorem leftover_eq (t : Token α) : ∃ why, leftover t = (Cause.malformed why).at t.offset := by
  unfold leftover
  split
  · exact ⟨.unmatchedParen, rfl⟩
  · exact ⟨.trailingToken _, rfl⟩

/-- Parsing a token list fails with the report of too much depth at some token, or where the tokens
break. -/
theorem ofTokens_eq_error {sourceLength : Nat} {ts : List (Token α)} (hne : ts ≠ []) {f : Failure α}
    (h : ofTokens sourceLength ts = .error f) :
    (∃ t ∈ ts, f = (Cause.malformed .tooDeep).at t.offset) ∨
      ∃ pre rest why, ts = pre ++ rest ∧ IsBroken pre rest ∧
        f = (Cause.malformed why).at (place sourceLength rest) := by
  unfold ofTokens at h
  rw [if_neg (by simpa using hne)] at h
  split at h
  · rename_i failure hrun
    cases h
    cases (sums_blames sourceLength).blamed hrun with
    | tooDeep mem => exact .inl ⟨_, mem, rfl⟩
    | stuck why split stuck => exact .inr ⟨_, _, why, split, stuck.isBroken, rfl⟩
  · rename_i p hrun
    obtain ⟨d, hends, hsplit⟩ := (sums_blames sourceLength).complete hrun
    split at h
    · cases h
    · rename_i t after hrest
      cases h
      obtain ⟨why, hwhy⟩ := leftover_eq t
      rw [hrest] at hends hsplit
      exact .inr ⟨_, _, why, hsplit, isBroken_of_endsBefore hends, hwhy⟩

/-- An error that is not about depth is reported at the earliest place: at the first token with which
the tokens so far can no longer become an expression, or at the end of the source when its tokens can
become one but are none. -/
theorem parse_error_earliest {source : String} {ts : List (Token Float)}
    (htokens : tokenize source = .ok ts) (hne : ts ≠ []) {f : Failure Float}
    (hparse : parse source = .error f) (hdepth : f.cause ≠ .malformed .tooDeep) :
    f.kind = .malformed ∧
      ((∃ (k : Nat) (hk : k < ts.length), f.position = some ts[k].offset ∧
          IsViable (ts.take k) ∧ ¬ IsViable (ts.take (k + 1))) ∨
        (f.position = some source.length ∧ ¬ IsSentence ts ∧
          ∃ more, more ≠ [] ∧ IsSentence (ts ++ more))) := by
  unfold parse at hparse
  rw [htokens] at hparse
  rcases ofTokens_eq_error hne hparse with ⟨t, -, rfl⟩ | ⟨pre, rest, why, rfl, broken, rfl⟩
  · exact absurd rfl hdepth
  · refine ⟨rfl, ?_⟩
    cases rest with
    | cons t after =>
      left
      refine ⟨pre.length, by simp, by simp [place, Cause.at], by simpa using broken.viable, ?_⟩
      have htake : (pre ++ t :: after).take (pre.length + 1) = pre ++ [t] := by
        rw [List.append_cons, List.take_left' (by simp)]
      rw [htake]
      exact broken.notViable t after rfl
    | nil =>
      right
      rw [List.append_nil]
      obtain ⟨more, hmore⟩ := broken.viable
      refine ⟨rfl, broken.unfinished rfl, more, ?_, hmore⟩
      rintro rfl
      exact broken.unfinished rfl (by simpa using hmore)

/-- Two arguments without a comma between them: after the first, the second breaks the call. -/
theorem parse_error_earliest_missingComma :
    ∃ ts f, tokenize "max(a b" = .ok ts ∧ ts ≠ [] ∧ parse "max(a b" = .error f ∧
      f.cause ≠ .malformed .tooDeep ∧ f.kind = .malformed ∧
      ((∃ (k : Nat) (hk : k < ts.length), f.position = some ts[k].offset ∧
          IsViable (ts.take k) ∧ ¬ IsViable (ts.take (k + 1))) ∨
        (f.position = some "max(a b".length ∧ ¬ IsSentence ts ∧
          ∃ more, more ≠ [] ∧ IsSentence (ts ++ more))) := by
  have hread : (tokenize "max(a b").toOption.map List.length = some 4 := by decide +kernel
  have hfailure : (parse "max(a b").failure? = some ((Cause.malformed (.missingParen 0)).at 6) := by
    decide +kernel
  obtain ⟨ts, hts, hlength⟩ := Answer.exists_eq_ok_of_map hread
  have hne : ts ≠ [] := by
    rintro rfl
    cases hlength
  have hparse := Answer.eq_error_of_failure? hfailure
  exact ⟨ts, _, hts, hne, hparse, nofun, parse_error_earliest hts hne hparse nofun⟩

end Expr

end Reckoner
