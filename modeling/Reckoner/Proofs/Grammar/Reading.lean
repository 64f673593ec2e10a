import Reckoner.Proofs.Grammar.Equations
import Reckoner.Proofs.Grammar.Unambiguous

/-!
# Parsers read the grammar

A parser reads a rule when it accepts exactly the derivations of the rule that are within the limits,
each with its tree and height, and stops where the derivation ends. Every combinator of the parser
keeps this for the rule that it implements, so that the whole parser reads expressions.
-/

namespace Reckoner

namespace Expr

open Grammar

variable {α : Type}

theorem grow_eq_ok_iff {height offset height' : Nat} :
    (grow height offset : Answer α Nat) = .ok height' ↔
      height + 1 ≤ maxDepth ∧ height' = height + 1 := by
  unfold grow tooDeep
  split
  · rename_i h
    constructor
    · intro h'
      cases h'
    · intro h'
      omega
  · rename_i h
    constructor
    · intro h'
      cases h'
      exact ⟨Nat.le_of_not_lt h, rfl⟩
    · rintro ⟨-, rfl⟩
      rfl

theorem takeBinary?_eq_some_iff {ops : List BinaryOperator} {ts rest : List (Token α)}
    {op : BinaryOperator} {offset : Nat} :
    takeBinary? ops ts = some (op, offset, rest) ↔
      op ∈ ops ∧ ts = ⟨.operator op.symbol, offset⟩ :: rest := by
  constructor
  · intro h
    unfold takeBinary? at h
    split at h
    · split at h
      · rename_i op' hop
        split at h
        · rename_i hmem
          cases h
          obtain rfl := BinaryOperator.ofSymbol?_eq_some_iff.mp hop
          exact ⟨List.contains_iff_mem.mp hmem, rfl⟩
        · cases h
      · cases h
    · cases h
  · rintro ⟨hmem, rfl⟩
    simp [takeBinary?, BinaryOperator.ofSymbol?_eq_some_iff.mpr rfl, hmem]

theorem takeBinary?_operators_eq_none {l : Level} {ts : List (Token α)}
    (h : Stops (Rule.chain l).rank ts) : takeBinary? l.operators ts = none := by
  cases htake : takeBinary? l.operators ts with
  | none => rfl
  | some taken =>
    obtain ⟨op, offset, rest⟩ := taken
    obtain ⟨hmem, rfl⟩ := takeBinary?_eq_some_iff.mp htake
    exact absurd h (not_stops_link hmem _ _)

theorem takeBinary?_pow_eq_none {ts : List (Token α)} (h : Stops Rule.factor.rank ts) :
    takeBinary? [.pow] ts = none := by
  cases htake : takeBinary? [.pow] ts with
  | none => rfl
  | some taken =>
    obtain ⟨op, offset, rest⟩ := taken
    obtain ⟨hmem, rfl⟩ := takeBinary?_eq_some_iff.mp htake
    obtain rfl := List.mem_singleton.mp hmem
    exact absurd h (not_ends_factor_power _ _)

/-- A derivation within the limits of height and nesting. -/
structure Fits {r : Rule} (levels : Nat) (d : Derivation α (.rule r)) : Prop where
  height_le : d.tree.height ≤ maxDepth
  nests : d.NestsWithin levels

/-- A derivation that fits is at the front of the tokens, and its tree and height are recorded. -/
def Parsed.IsDerived (p : Parsed α) (r : Rule) (levels : Nat) (ts : List (Token α)) : Prop :=
  ∃ d : Derivation α (.rule r), Fits levels d ∧
    ts = d.tokens ++ p.rest ∧ p.tree = d.tree ∧ p.height = d.tree.height

/-- The parser accepts the derivations of a rule that fit, and nothing else. -/
structure Parser.Reads (P : Parser α) (r : Rule) (levels : Nat) : Prop where
  sound : ∀ {ts : List (Token α)} {p : Parsed α}, P.run ts = .ok p → p.IsDerived r levels ts
  complete : ∀ {d : Derivation α (.rule r)} {rest : List (Token α)}, Fits levels d →
    Stops r.rank rest → P.run (d.tokens ++ rest) = .ok ⟨d.tree, d.tree.height, rest⟩

/-- What reads the inside of an enclosure: nothing when no level is left, and otherwise a parser for
one level less. -/
inductive ReadsInside (r : Rule) : Option (Parser α) → Nat → Prop where
  | bottom : ReadsInside r none 0
  | inside {P : Parser α} {levels : Nat} (reads : P.Reads r levels) :
      ReadsInside r (some P) (levels + 1)

theorem leaf_height_le : 1 ≤ maxDepth := by
  decide

/-! ## Chains -/

/-- What a chain adds to the tree on its left is derived by links that fit. -/
theorem chainFrom_sound {l : Level} {operand : Parser α} {levels : Nat}
    (reads : operand.Reads l.operand levels) {left : Expr α} {height : Nat} {ts : List (Token α)}
    {p : Parsed α} (h : chainFrom l.operators operand left height ts = .ok p)
    (hheight : height = left.height) (hleft : left.height ≤ maxDepth) :
    ∃ d : Derivation α (.links l), d.NestsWithin levels ∧ ts = d.tokens ++ p.rest ∧
      p.tree = joined left d.tree ∧ p.height = p.tree.height ∧ p.tree.height ≤ maxDepth := by
  -- The recorded height stays the height of the tree on the left, which every link makes taller.
  generalize hops : l.operators = ops at h
  fun_induction chainFrom ops operand left height ts with
  | case1 left height ts hop =>
    cases h
    exact ⟨.noLink, Derivation.nestsWithin_noLink, rfl, rfl, hheight, hleft⟩
  | case2 => cases h
  | case3 => cases h
  | case4 left height ts op offset afterOp hop right hright height' hgrow ih =>
    subst hops
    obtain ⟨hmem, rfl⟩ := takeBinary?_eq_some_iff.mp hop
    obtain ⟨dright, fits, rfl, htree, hrightHeight⟩ := reads.sound hright
    obtain ⟨hle, rfl⟩ := grow_eq_ok_iff.mp hgrow
    have hnode : max height right.height + 1 = (Expr.binary op left right.tree).height := by
      rw [Expr.height, hheight, hrightHeight, htree]
    obtain ⟨drest, nests, hrest, hjoined, hpheight, hple⟩ := ih hnode (hnode ▸ hle) h
    refine ⟨.link op hmem offset dright drest, ?_, ?_, ?_, hpheight, hple⟩
    · exact (Derivation.nestsWithin_link ..).mpr ⟨fits.nests, nests⟩
    · rw [hrest, Derivation.tokens, List.cons_append, List.append_assoc]
    · rw [hjoined, htree]
      rfl

/-- A chain goes on through all links that fit. -/
theorem chainFrom_complete {l : Level} {operand : Parser α} {levels : Nat}
    (reads : operand.Reads l.operand levels) (d : Derivation α (.links l)) {left : Expr α}
    {rest : List (Token α)} (hle : (joined left d.tree).height ≤ maxDepth)
    (nests : d.NestsWithin levels) (hstop : Stops (Rule.chain l).rank rest) :
    chainFrom l.operators operand left left.height (d.tokens ++ rest) =
      .ok ⟨joined left d.tree, (joined left d.tree).height, rest⟩ := by
  match d with
  | .noLink => exact chainFrom_of_none (takeBinary?_operators_eq_none hstop)
  | .link op mem offset right more =>
    obtain ⟨nestsRight, nestsMore⟩ := (Derivation.nestsWithin_link ..).mp nests
    have hnode : (Expr.binary op left right.tree).height ≤ maxDepth :=
      Nat.le_trans (height_le_joined _ more.tree) hle
    have hright : right.tree.height ≤ maxDepth :=
      Nat.le_trans (Nat.le_succ_of_le (Nat.le_max_right _ _)) hnode
    have hrun := reads.complete ⟨hright, nestsRight⟩ (more.stops_tokens_links hstop)
    rw [Derivation.tokens, List.cons_append, List.append_assoc]
    rw [chainFrom_of_some (takeBinary?_eq_some_iff.mpr ⟨mem, rfl⟩) hrun
      (grow_eq_ok_iff.mpr ⟨hnode, rfl⟩)]
    exact chainFrom_complete reads more hle nestsMore hstop

theorem Parser.Reads.chain {l : Level} {operand : Parser α} {levels : Nat}
    (reads : operand.Reads l.operand levels) :
    (Expr.chain l.operators operand).Reads (.chain l) levels where
  sound := by
    intro ts p h
    simp only [Expr.chain] at h
    split at h
    · cases h
    · rename_i first hfirst
      obtain ⟨dfirst, fits, rfl, htree, hheight⟩ := reads.sound hfirst
      rw [htree] at h
      obtain ⟨drest, nests, hrest, hjoined, hpheight, hple⟩ :=
        chainFrom_sound reads h hheight fits.height_le
      have hwhole : p.tree = (Derivation.chain dfirst drest).tree := hjoined
      refine ⟨.chain dfirst drest, ⟨hwhole ▸ hple, ?_⟩, ?_, hwhole, hwhole ▸ hpheight⟩
      · exact (Derivation.nestsWithin_chain ..).mpr ⟨fits.nests, nests⟩
      · rw [hrest, Derivation.tokens, List.append_assoc]
  complete := by
    intro d rest fits hstop
    cases d with
    | chain first links =>
      obtain ⟨nestsFirst, nestsLinks⟩ := (Derivation.nestsWithin_chain ..).mp fits.nests
      have hfirst : first.tree.height ≤ maxDepth :=
        Nat.le_trans (height_le_joined _ links.tree) fits.height_le
      have hrun := reads.complete ⟨hfirst, nestsFirst⟩ (links.stops_tokens_links hstop)
      simp only [Expr.chain, Derivation.tokens, List.append_assoc, hrun]
      exact chainFrom_complete reads links fits.height_le nestsLinks hstop

theorem Parser.Reads.sumsOf {factor : Parser α} {levels : Nat} (reads : factor.Reads .factor levels) :
    (sumsOf factor).Reads .expr levels :=
  Parser.Reads.chain (l := .sum) (Parser.Reads.chain (l := .product) reads)

/-! ## Arguments and primaries -/

theorem argsFrom_sound {sourceLength opened levels : Nat} {arg : Parser α}
    (reads : arg.Reads .expr levels) {ts : List (Token α)} {p : ParsedArgs α}
    (h : argsFrom sourceLength opened arg ts = .ok p) :
    ∃ (first : Derivation α (.rule .expr)) (rest : Derivation α .moreArguments) (closed : Nat),
      (Derivation.arguments first rest).NestsWithin levels ∧
      ts = (Derivation.arguments first rest).tokens ++ ⟨.rightParen, closed⟩ :: p.rest ∧
      p.args = first.tree :: rest.tree ∧ p.height = tallest p.args := by
  fun_induction argsFrom sourceLength opened arg ts generalizing p with
  | case1 => cases h
  | case2 => cases h
  | case3 ts first harg offset afterComma hrest more hmore ih =>
    cases h
    obtain ⟨d, fits, rfl, htree, hheight⟩ := reads.sound harg
    obtain ⟨d', rest', closed, nests, rfl, hargs, hmoreHeight⟩ := ih hmore
    refine ⟨d, .more offset d' rest', closed, ?_, ?_, ?_, ?_⟩
    · exact (Derivation.nestsWithin_arguments ..).mpr ⟨fits.nests, nests⟩
    · simp [hrest, Derivation.tokens]
    · simp [hargs, htree, Derivation.tree]
    · simp [tallest, hheight, htree, hmoreHeight]
  | case4 ts first harg offset rest hrest =>
    cases h
    obtain ⟨d, fits, rfl, htree, hheight⟩ := reads.sound harg
    refine ⟨d, .noMore, offset, ?_, ?_, ?_, ?_⟩
    · exact (Derivation.nestsWithin_arguments ..).mpr ⟨fits.nests, Derivation.nestsWithin_noMore⟩
    · simp [hrest, Derivation.tokens]
    · simp [htree, Derivation.tree]
    · simp [tallest, hheight, htree]
  | case5 => cases h

theorem argsFrom_complete {sourceLength opened closed levels : Nat} {arg : Parser α}
    (reads : arg.Reads .expr levels) (first : Derivation α (.rule .expr))
    (rest : Derivation α .moreArguments) {after : List (Token α)}
    (hle : tallest (first.tree :: rest.tree) ≤ maxDepth)
    (nests : (Derivation.arguments first rest).NestsWithin levels) :
    argsFrom sourceLength opened arg
        ((Derivation.arguments first rest).tokens ++ ⟨.rightParen, closed⟩ :: after) =
      .ok ⟨first.tree :: rest.tree, tallest (first.tree :: rest.tree), after⟩ := by
  obtain ⟨nestsFirst, nestsRest⟩ := (Derivation.nestsWithin_arguments ..).mp nests
  obtain ⟨hfirst, hrest⟩ := Nat.max_le.mp hle
  have hrun := reads.complete ⟨hfirst, nestsFirst⟩
    (rest.stops_tokens_more ⟨closed, after, rfl⟩ Rule.expr.rank)
  rw [Derivation.tokens, List.append_assoc]
  cases rest with
  | noMore =>
    rw [argsFrom_of_rightParen hrun rfl]
    simp [tallest, Derivation.tree]
  | more comma arg' rest' =>
    have hmore : argsFrom sourceLength opened arg
        ((Derivation.arguments arg' rest').tokens ++ ⟨.rightParen, closed⟩ :: after) =
          .ok ⟨arg'.tree :: rest'.tree, tallest (arg'.tree :: rest'.tree), after⟩ :=
      argsFrom_complete reads arg' rest' hrest nestsRest
    rw [argsFrom_of_comma hrun rfl hmore]
    rfl

theorem callArgs_sound {sourceLength opened levels : Nat} {arg : Parser α}
    (reads : arg.Reads .expr levels) {ts : List (Token α)} {p : ParsedArgs α}
    (h : callArgs sourceLength opened arg ts = .ok p) :
    ∃ (d : Derivation α .arguments) (closed : Nat), d.NestsWithin levels ∧
      ts = d.tokens ++ ⟨.rightParen, closed⟩ :: p.rest ∧
      p.args = d.tree ∧ p.height = tallest p.args := by
  unfold callArgs at h
  split at h
  · cases h
    exact ⟨.noArguments, _, Derivation.nestsWithin_noArguments, rfl, rfl, rfl⟩
  · obtain ⟨first, rest, closed, nests, htokens, hargs, hheight⟩ := argsFrom_sound reads h
    exact ⟨.arguments first rest, closed, nests, htokens, hargs, hheight⟩

theorem callArgs_complete {sourceLength opened closed levels : Nat} {arg : Parser α}
    (reads : arg.Reads .expr levels) (d : Derivation α .arguments) {after : List (Token α)}
    (hle : tallest d.tree ≤ maxDepth) (nests : d.NestsWithin levels) :
    callArgs sourceLength opened arg (d.tokens ++ ⟨.rightParen, closed⟩ :: after) =
      .ok ⟨d.tree, tallest d.tree, after⟩ := by
  cases d with
  | noArguments => rfl
  | arguments first rest =>
    unfold callArgs
    split
    · rename_i hparen
      -- An argument would have to start with the parenthesis that closes the call.
      rw [Derivation.tokens, List.append_assoc] at hparen
      exact absurd hparen (first.tokens_append_ne_cons (by simp [Rule.Starts]) _ _)
    · exact argsFrom_complete reads first rest hle nests

/-- A name that no parenthesis follows is a variable. -/
theorem primary_run_name {sourceLength : Nat} {inner : Option (Parser α)} (text : String)
    (offset : Nat) {rest : List (Token α)} (hstop : Stops Rule.primary.rank rest) :
    (Expr.primary sourceLength inner).run (⟨.identifier text, offset⟩ :: rest) =
      .ok ⟨.variableRef text offset, 1, rest⟩ := by
  cases rest with
  | nil => rfl
  | cons t rest =>
    obtain ⟨kind, _⟩ := t
    cases kind with
    | leftParen => exact absurd hstop (by simp)
    | _ => rfl

theorem primary_call_isDerived {sourceLength levels : Nat} {inner : Option (Parser α)}
    (reads : ReadsInside .expr inner levels) {name : String} {offset opened : Nat}
    {rest : List (Token α)} {p : Parsed α}
    (h : (Expr.primary sourceLength inner).run
      (⟨.identifier name, offset⟩ :: ⟨.leftParen, opened⟩ :: rest) = .ok p) :
    p.IsDerived .primary levels (⟨.identifier name, offset⟩ :: ⟨.leftParen, opened⟩ :: rest) := by
  cases reads with
  | bottom => cases h
  | @inside inner levels reads =>
    simp only [Expr.primary] at h
    split at h
    · cases h
    · rename_i args hargs
      split at h
      · cases h
      · rename_i height hgrow
        cases h
        obtain ⟨d, closed, nests, rfl, htree, hheight⟩ := callArgs_sound reads hargs
        obtain ⟨hle, rfl⟩ := grow_eq_ok_iff.mp hgrow
        have hcall : args.height + 1 = (Expr.call name d.tree offset).height := by
          rw [Expr.height, hheight, htree]
        refine ⟨.call name offset opened d closed, ⟨hcall ▸ hle, ?_⟩, ?_, ?_, hcall⟩
        · exact Derivation.nestsWithin_call_iff.mpr ⟨levels, rfl, nests⟩
        · simp [Derivation.tokens]
        · rw [htree]
          rfl

theorem primary_group_isDerived {sourceLength levels : Nat} {inner : Option (Parser α)}
    (reads : ReadsInside .expr inner levels) {opened : Nat} {rest : List (Token α)} {p : Parsed α}
    (h : (Expr.primary sourceLength inner).run (⟨.leftParen, opened⟩ :: rest) = .ok p) :
    p.IsDerived .primary levels (⟨.leftParen, opened⟩ :: rest) := by
  cases reads with
  | bottom => cases h
  | @inside inner levels reads =>
    simp only [Expr.primary] at h
    split at h
    · cases h
    · rename_i q hinner
      split at h
      · rename_i closed after hclosed
        cases h
        obtain ⟨d, fits, rfl, htree, hheight⟩ := reads.sound hinner
        refine ⟨.group opened d closed, ⟨fits.height_le, ?_⟩, ?_, htree, hheight⟩
        · exact Derivation.nestsWithin_group_iff.mpr ⟨levels, rfl, fits.nests⟩
        · simp [Derivation.tokens, hclosed]
      · cases h

theorem ReadsInside.primary {sourceLength levels : Nat} {inner : Option (Parser α)}
    (reads : ReadsInside .expr inner levels) :
    (Expr.primary sourceLength inner).Reads .primary levels where
  sound := by
    intro ts p h
    have hrun := h
    simp only [Expr.primary] at h
    split at h
    · cases h
    · cases h
      rename_i value offset rest
      exact ⟨.number value offset, ⟨leaf_height_le, List.forall_mem_nil _⟩, rfl, rfl, rfl⟩
    · exact primary_call_isDerived reads hrun
    · cases h
      rename_i name offset rest _
      exact ⟨.name name offset, ⟨leaf_height_le, List.forall_mem_nil _⟩, rfl, rfl, rfl⟩
    · exact primary_group_isDerived reads hrun
    · cases h
  complete := by
    intro d rest fits hstop
    cases d with
    | number value offset => rfl
    | name text offset => exact primary_run_name text offset hstop
    | call text offset opened args closed =>
      obtain ⟨m, rfl, nests⟩ := Derivation.nestsWithin_call_iff.mp fits.nests
      cases reads with
      | @inside P m reads =>
        have hcall : tallest args.tree + 1 ≤ maxDepth := fits.height_le
        have hargs : callArgs sourceLength offset P (args.tokens ++ ⟨.rightParen, closed⟩ :: rest) =
            .ok ⟨args.tree, tallest args.tree, rest⟩ :=
          callArgs_complete reads args (Nat.le_of_succ_le hcall) nests
        simp only [Expr.primary, Derivation.tokens, List.cons_append, List.append_assoc,
          List.nil_append, hargs, grow_eq_ok_iff.mpr ⟨hcall, rfl⟩]
        rfl
    | group opened inner closed =>
      obtain ⟨m, rfl, nests⟩ := Derivation.nestsWithin_group_iff.mp fits.nests
      cases reads with
      | inside reads =>
        have hinner := reads.complete ⟨fits.height_le, nests⟩ (stops_rightParen _ closed rest)
        simp only [Expr.primary, Derivation.tokens, List.cons_append, List.append_assoc,
          List.nil_append, hinner]
        rfl

/-! ## Marks, signs and powers -/

theorem factorialsFrom_sound {tree : Expr α} {height : Nat} {ts : List (Token α)} {p : Parsed α}
    (h : factorialsFrom tree height ts = .ok p) (hheight : height = tree.height)
    (hle : tree.height ≤ maxDepth) :
    ∃ marks, ts = markTokens marks ++ p.rest ∧ p.tree = marked tree marks ∧
      p.height = p.tree.height ∧ p.tree.height ≤ maxDepth := by
  fun_induction factorialsFrom tree height ts with
  | case1 => cases h
  | case2 tree height offset rest height' hgrow ih =>
    obtain ⟨hgrown, rfl⟩ := grow_eq_ok_iff.mp hgrow
    have hnode : height + 1 = (Expr.unary (.factorial offset) tree).height := by
      rw [Expr.height, hheight]
    obtain ⟨marks, rfl, htree, hpheight, hple⟩ := ih h hnode (hnode ▸ hgrown)
    exact ⟨offset :: marks, rfl, htree, hpheight, hple⟩
  | case3 tree height ts =>
    cases h
    exact ⟨[], rfl, rfl, hheight, hle⟩

theorem factorialsFrom_of_stops {tree : Expr α} {height : Nat} {ts : List (Token α)}
    (hstop : Stops Rule.postfixed.rank ts) :
    factorialsFrom tree height ts = .ok ⟨tree, height, ts⟩ := by
  unfold factorialsFrom
  split
  · exact absurd hstop (by simp [Rule.rank])
  · rfl

theorem factorialsFrom_complete {tree : Expr α} {marks : List Nat} {rest : List (Token α)}
    (hle : (marked tree marks).height ≤ maxDepth) (hstop : Stops Rule.postfixed.rank rest) :
    factorialsFrom tree tree.height (markTokens marks ++ rest) =
      .ok ⟨marked tree marks, (marked tree marks).height, rest⟩ := by
  induction marks generalizing tree with
  | nil => exact factorialsFrom_of_stops hstop
  | cons offset marks ih =>
    have hnode : tree.height + 1 ≤ maxDepth :=
      Nat.le_trans (height_le_marked (.unary (.factorial offset) tree) marks) hle
    have hrest : factorialsFrom (.unary (.factorial offset) tree) (tree.height + 1)
        (markTokens marks ++ rest) = _ := ih hle
    simp only [markTokens, List.map_cons, List.cons_append, factorialsFrom,
      grow_eq_ok_iff.mpr ⟨hnode, rfl⟩]
    exact hrest

theorem Parser.Reads.postfixed {operand : Parser α} {levels : Nat}
    (reads : operand.Reads .primary levels) : (Expr.postfixed operand).Reads .postfixed levels where
  sound := by
    intro ts p h
    simp only [Expr.postfixed] at h
    split at h
    · cases h
    · rename_i q hoperand
      obtain ⟨d, fits, rfl, htree, hheight⟩ := reads.sound hoperand
      rw [htree] at h
      obtain ⟨marks, hmarks, hmarked, hpheight, hple⟩ :=
        factorialsFrom_sound h hheight fits.height_le
      have hwhole : p.tree = (Derivation.postfixed d marks).tree := hmarked
      refine ⟨.postfixed d marks, ⟨hwhole ▸ hple, fits.nests⟩, ?_, hwhole, hwhole ▸ hpheight⟩
      rw [hmarks, Derivation.tokens, List.append_assoc]
  complete := by
    intro d rest fits hstop
    cases d with
    | postfixed operand' marks =>
      have hoperand : operand'.tree.height ≤ maxDepth :=
        Nat.le_trans (height_le_marked _ marks) fits.height_le
      have hrun := reads.complete ⟨hoperand, fits.nests⟩ (stops_markTokens hstop marks)
      simp only [Expr.postfixed, Derivation.tokens, List.append_assoc, hrun]
      exact factorialsFrom_complete fits.height_le hstop

/-- Without a minus sign in front, a sign is not read. -/
theorem signed_run_of_starts {operand : Parser α} {t : Token α} {ts : List (Token α)}
    (h : Rule.postfixed.Starts t.kind) : (signed operand).run (t :: ts) = operand.run (t :: ts) := by
  apply signed_run_of_ne
  rintro hminus
  rw [hminus] at h
  simp [Rule.Starts] at h

theorem Parser.Reads.signed {operand : Parser α} {levels : Nat}
    (reads : operand.Reads .postfixed levels) : (Expr.signed operand).Reads .unary levels where
  sound := by
    intro ts p h
    simp only [Expr.signed] at h
    split at h
    · rename_i offset rest
      split at h
      · cases h
      · rename_i q hoperand
        split at h
        · cases h
        · rename_i height hgrow
          cases h
          obtain ⟨d, fits, rfl, htree, hheight⟩ := reads.sound hoperand
          obtain ⟨hle, rfl⟩ := grow_eq_ok_iff.mp hgrow
          have hnode : q.height + 1 = (Expr.unary .neg d.tree).height := by
            rw [Expr.height, hheight]
          refine ⟨.negated offset d, ⟨hnode ▸ hle, fits.nests⟩, rfl, ?_, hnode⟩
          rw [htree]
          rfl
    · obtain ⟨d, fits, htokens, htree, hheight⟩ := reads.sound h
      exact ⟨.unsigned d, ⟨fits.height_le, fits.nests⟩, htokens, htree, hheight⟩
  complete := by
    intro d rest fits hstop
    cases d with
    | unsigned operand' =>
      have hrun := reads.complete ⟨fits.height_le, fits.nests⟩ hstop
      obtain ⟨t, ts, htokens, hstart⟩ := operand'.exists_tokens_eq_cons
      rw [Derivation.tokens, htokens, List.cons_append, signed_run_of_starts hstart,
        ← List.cons_append, ← htokens]
      exact hrun
    | negated offset operand' =>
      have hnode : operand'.tree.height + 1 ≤ maxDepth := fits.height_le
      have hrun := reads.complete ⟨Nat.le_of_succ_le hnode, fits.nests⟩ hstop
      simp only [Expr.signed, Derivation.tokens, List.cons_append, hrun,
        grow_eq_ok_iff.mpr ⟨hnode, rfl⟩]
      rfl

theorem Parser.Reads.raised {base : Parser α} {exponent : Option (Parser α)} {levels : Nat}
    (reads : base.Reads .unary levels) (inside : ReadsInside .factor exponent levels) :
    (Expr.raised base exponent).Reads .factor levels where
  sound := by
    intro ts p h
    simp only [Expr.raised] at h
    split at h
    · cases h
    · rename_i q hbase
      obtain ⟨d, fits, rfl, htree, hheight⟩ := reads.sound hbase
      split at h
      · cases h
        exact ⟨.plain d, ⟨fits.height_le, fits.nests⟩, rfl, htree, hheight⟩
      · rename_i op offset afterOp hop
        obtain ⟨hmem, hrest⟩ := takeBinary?_eq_some_iff.mp hop
        obtain rfl := List.mem_singleton.mp hmem
        cases inside with
        | bottom => cases h
        | @inside P m reads' =>
          simp only at h
          split at h
          · cases h
          · rename_i q' hexponent
            split at h
            · cases h
            · rename_i height hgrow
              cases h
              obtain ⟨d', fits', rfl, htree', hheight'⟩ := reads'.sound hexponent
              obtain ⟨hle, rfl⟩ := grow_eq_ok_iff.mp hgrow
              have hnode : max q.height q'.height + 1 =
                  (Expr.binary .pow d.tree d'.tree).height := by
                rw [Expr.height, hheight, hheight']
              refine ⟨.power d offset d', ⟨hnode ▸ hle, ?_⟩, ?_, ?_, hnode⟩
              · exact Derivation.nestsWithin_power_iff.mpr ⟨fits.nests, m, rfl, fits'.nests⟩
              · rw [hrest, Derivation.tokens, List.append_assoc, List.cons_append]
                rfl
              · rw [htree, htree']
                rfl
  complete := by
    intro d rest fits hstop
    cases d with
    | plain base' =>
      have hrun := reads.complete ⟨fits.height_le, fits.nests⟩ (hstop.mono (by decide))
      simp only [Expr.raised, Derivation.tokens, hrun, takeBinary?_pow_eq_none hstop]
      rfl
    | power base' offset exponent' =>
      obtain ⟨nests, m, rfl, nests'⟩ := Derivation.nestsWithin_power_iff.mp fits.nests
      cases inside with
      | inside reads' =>
        have hnode : max base'.tree.height exponent'.tree.height + 1 ≤ maxDepth := fits.height_le
        obtain ⟨hbase, hexponent⟩ := Nat.max_le.mp (Nat.le_of_succ_le hnode)
        have hrun := reads.complete ⟨hbase, nests⟩
          (ends_unary_power offset (exponent'.tokens ++ rest))
        have hrun' := reads'.complete ⟨hexponent, nests'⟩ hstop
        have htake : takeBinary? [.pow] (⟨.operator '^', offset⟩ :: (exponent'.tokens ++ rest)) =
            some (.pow, offset, exponent'.tokens ++ rest) :=
          takeBinary?_eq_some_iff.mpr ⟨List.mem_singleton_self _, rfl⟩
        simp only [Expr.raised, Derivation.tokens, List.append_assoc, List.cons_append, hrun, htake,
          hrun', grow_eq_ok_iff.mpr ⟨hnode, rfl⟩]
        rfl

/-! ## Expressions -/

theorem ReadsInside.sumsOf {inner : Option (Parser α)} {levels : Nat}
    (reads : ReadsInside .factor inner levels) :
    ReadsInside .expr (inner.map Expr.sumsOf) levels := by
  cases reads with
  | bottom => exact .bottom
  | inside reads => exact .inside reads.sumsOf

theorem ReadsInside.factorWithin {sourceLength levels : Nat} {inner : Option (Parser α)}
    (reads : ReadsInside .factor inner levels) :
    (Expr.factorWithin sourceLength inner).Reads .factor levels :=
  reads.sumsOf.primary.postfixed.signed.raised reads

theorem factor_reads (sourceLength levels : Nat) :
    (factor sourceLength levels : Parser α).Reads .factor levels := by
  induction levels with
  | zero => exact ReadsInside.bottom.factorWithin
  | succ levels ih => exact (ReadsInside.inside ih).factorWithin

theorem sums_reads (sourceLength : Nat) : (sums sourceLength : Parser α).Reads .expr maxDepth :=
  (factor_reads sourceLength maxDepth).sumsOf

/-- The tokens of a source make a tree when they have a derivation within the limits. -/
theorem ofTokens_eq_ok_iff {sourceLength : Nat} {ts : List (Token α)} {e : Expr α} :
    ofTokens sourceLength ts = .ok e ↔
      ∃ d : Derivation α (.rule .expr), Fits maxDepth d ∧ d.tokens = ts ∧ d.tree = e := by
  constructor
  · intro h
    unfold ofTokens at h
    split at h
    · cases h
    · split at h
      · cases h
      · rename_i p hrun
        split at h
        · rename_i hrest
          cases h
          obtain ⟨d, fits, htokens, htree, -⟩ := (sums_reads sourceLength).sound hrun
          exact ⟨d, fits, by rw [htokens, hrest, List.append_nil], htree.symm⟩
        · cases h
  · rintro ⟨d, fits, rfl, rfl⟩
    have hrun := (sums_reads sourceLength).complete fits (stops_nil _)
    obtain ⟨t, ts, htokens, -⟩ := d.exists_tokens_eq_cons
    rw [List.append_nil] at hrun
    unfold ofTokens
    rw [hrun, htokens]
    rfl

/-- A source has a tree exactly when its tokens have a derivation whose tree is not higher than the
limit and in which nothing is enclosed as often as the limit; and then it is the tree of that
derivation. There is never a choice between two derivations. -/
theorem parse_eq_ok_iff_exists_derivation (source : String) :
    (∀ e, parse source = .ok e ↔
      ∃ d : Derivation Float (.rule .expr), tokenize source = .ok d.tokens ∧ d.tree = e ∧
        e.height ≤ maxDepth ∧ ∀ k ∈ d.enclosures, k < maxDepth) ∧
    Function.Injective fun d : Derivation Float (.rule .expr) => d.tokens := by
  refine ⟨fun e => ?_, Derivation.tokens_injective .expr⟩
  unfold parse
  cases htokens : tokenize source with
  | error failure => simp
  | ok ts =>
    simp only [ofTokens_eq_ok_iff, Except.ok.injEq]
    constructor
    · rintro ⟨d, fits, rfl, rfl⟩
      exact ⟨d, rfl, rfl, fits.height_le, fits.nests⟩
    · rintro ⟨d, rfl, rfl, hle, nests⟩
      exact ⟨d, ⟨hle, nests⟩, rfl, rfl⟩

end Expr

end Reckoner
