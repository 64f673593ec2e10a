import Mathlib.Data.List.Nodup
import Reckoner.Proofs.Grammar.EarliestError
import Reckoner.Proofs.Token.Splitting

/-!
# The parenthesis that is missed

Which parentheses are open at a place of the source is a stack, counted from the characters before it.
What a rule derives leaves the stack as it was, so a parser that misses a closing parenthesis does so
where the innermost open one is that of the group or the call it reads. A group is reported by its
parenthesis, but a call by its name.
-/

namespace Reckoner

open Grammar

variable {α : Type}

/-! ## Open parentheses -/

/-- The offsets of the parentheses that are open after some characters, innermost first: the characters
begin at `offset`, where those in `opened` are open. -/
def openParens (opened : List Nat) (offset : Nat) : List Char → List Nat
  | [] => opened
  | c :: rest =>
    openParens (if c = '(' then offset :: opened else if c = ')' then opened.tail else opened)
      (offset + 1) rest

/-- The parentheses that are open after a token, where those in `opened` are open before it. -/
def Token.openAfter (opened : List Nat) (t : Token α) : List Nat :=
  match t.kind with
  | .leftParen => t.offset :: opened
  | .rightParen => opened.tail
  | _ => opened

/-- The parentheses that are open after some tokens. -/
def openTokens (opened : List Nat) (ts : List (Token α)) : List Nat := ts.foldl Token.openAfter opened

theorem openTokens_append (opened : List Nat) (us vs : List (Token α)) :
    openTokens opened (us ++ vs) = openTokens (openTokens opened us) vs := List.foldl_append

theorem openParens_append_of_forall {cs : List Char} (h : ∀ c ∈ cs, c ≠ '(' ∧ c ≠ ')')
    (opened : List Nat) (offset : Nat) (rest : List Char) :
    openParens opened offset (cs ++ rest) = openParens opened (offset + cs.length) rest := by
  induction cs generalizing offset with
  | nil => rfl
  | cons c cs ih =>
    obtain ⟨hc, hcs⟩ := List.forall_mem_cons.mp h
    rw [List.cons_append, openParens, if_neg hc.1, if_neg hc.2, ih hcs, List.length_cons,
      Nat.add_assoc, Nat.add_comm 1]

theorem ne_paren_of_isBlank {c : Char} (h : Text.isBlank c = true) : c ≠ '(' ∧ c ≠ ')' := by
  constructor <;> rintro rfl <;> exact absurd h (by decide)

theorem ne_paren_of_isNamePart {c : Char} (h : Lexeme.isNamePart c = true) : c ≠ '(' ∧ c ≠ ')' := by
  constructor <;> rintro rfl <;> exact absurd h (by decide +kernel)

theorem Numeral.ne_paren_of_mem_text {n : Numeral} {c : Char} (h : c ∈ n.text) : c ≠ '(' ∧ c ≠ ')' := by
  constructor <;> rintro rfl <;> exact absurd (n.mem_text h) (by decide)

/-- The characters of a token open and close what the token does. -/
theorem Lexeme.Spells.openParens_append {span after : List Char} {kind : Lexeme Float}
    (h : Spells span after kind) (opened : List Nat) (offset : Nat) (rest : List Char) :
    openParens opened offset (span ++ rest) =
      openParens (Token.openAfter opened ⟨kind, offset⟩) (offset + span.length) rest := by
  cases h with
  | number n text longest =>
    subst text
    exact openParens_append_of_forall (fun _ => Numeral.ne_paren_of_mem_text) opened offset rest
  | identifier text starts parts longest =>
    subst text
    refine openParens_append_of_forall (fun c hc => ne_paren_of_isNamePart ?_) opened offset rest
    obtain rfl | hmore := List.mem_cons.mp hc
    · exact isNamePart_of_isNameStart starts
    · exact parts c hmore
  | symbol text mem =>
    subst text
    simp only [symbols, List.mem_cons, Prod.mk.injEq, List.not_mem_nil, or_false] at mem
    obtain ⟨rfl, rfl⟩ | ⟨rfl, rfl⟩ | ⟨rfl, rfl⟩ | ⟨rfl, rfl⟩ | ⟨rfl, rfl⟩ | ⟨rfl, rfl⟩ | ⟨rfl, rfl⟩ |
      ⟨rfl, rfl⟩ | ⟨rfl, rfl⟩ | ⟨rfl, rfl⟩ | ⟨rfl, rfl⟩ | ⟨rfl, rfl⟩ | ⟨rfl, rfl⟩ := mem <;> rfl

open Reckoner.Expr in
/-- The characters up to a token open and close what the tokens before it do. -/
theorem exists_openParens_eq {offset : Nat} {cs : List Char} {pre rest : List (Token Float)}
    (h : tokenizeFrom offset cs = .ok (pre ++ rest)) :
    ∃ front back, cs = front ++ back ∧ place (offset + cs.length) rest = offset + front.length ∧
      ∀ opened, openParens opened offset front = openTokens opened pre := by
  generalize hts : pre ++ rest = ts at h
  fun_induction tokenizeFrom offset cs generalizing pre ts with
  | case1 offset =>
    cases h
    obtain ⟨rfl, rfl⟩ := List.append_eq_nil_iff.mp hts
    exact ⟨[], [], rfl, rfl, fun _ => rfl⟩
  | case2 offset c cs hblank ih =>
    obtain ⟨front, back, rfl, hplace, hopen⟩ := ih ts hts h
    have hlength : offset + (c :: (front ++ back)).length = offset + 1 + (front ++ back).length := by
      rw [List.length_cons]
      omega
    refine ⟨c :: front, back, rfl, ?_, fun opened => ?_⟩
    · rw [hlength, hplace, List.length_cons]
      omega
    · have hblanks : ∀ d ∈ [c], d ≠ '(' ∧ d ≠ ')' :=
        List.forall_mem_singleton.mpr (ne_paren_of_isBlank hblank)
      exact (openParens_append_of_forall hblanks opened offset front).trans (hopen opened)
  | case3 => cases h
  | case4 => cases h
  | case5 offset c cs hblank kind more hread tokens htokens ih =>
    cases h
    cases pre with
    | nil =>
      obtain rfl := hts
      exact ⟨[], c :: cs, rfl, rfl, fun _ => rfl⟩
    | cons t pre =>
      obtain ⟨rfl, rfl⟩ := List.cons.inj hts
      obtain ⟨span, after, hsplit, hspan, hspells⟩ := Lexeme.exists_spells_of_read hread
      obtain ⟨front, back, hafter, hplace, hopen⟩ := ih _ rfl htokens
      have hdrop : cs.drop more = after := by
        rw [← List.drop_succ_cons, hsplit, ← hspan, List.drop_left]
      have hlength : offset + (c :: cs).length = offset + 1 + more + (cs.drop more).length := by
        rw [hsplit, hdrop, List.length_append, hspan]
        omega
      refine ⟨span ++ front, back, ?_, ?_, fun opened => ?_⟩
      · rw [hsplit, ← hdrop, hafter, List.append_assoc]
      · rw [hlength, hplace, List.length_append, hspan]
        omega
      · rw [hspells.openParens_append, hspan, ← Nat.add_assoc, Nat.add_right_comm, hopen]
        rfl

/-! ## What a rule derives -/

namespace Grammar

/-- The tokens leave the parentheses open that are open before them, and no others. -/
def IsBalanced (ts : List (Token α)) : Prop := ∀ opened, openTokens opened ts = opened

theorem isBalanced_nil : IsBalanced ([] : List (Token α)) := fun _ => rfl

theorem IsBalanced.append {us vs : List (Token α)} (hus : IsBalanced us) (hvs : IsBalanced vs) :
    IsBalanced (us ++ vs) := by
  intro opened
  rw [openTokens_append, hus, hvs]

/-- A token that is no parenthesis changes nothing. -/
theorem IsBalanced.cons {t : Token α} (ht : ∀ opened, t.openAfter opened = opened)
    {ts : List (Token α)} (hts : IsBalanced ts) : IsBalanced (t :: ts) := by
  intro opened
  show openTokens (t.openAfter opened) ts = opened
  rw [ht, hts]

theorem IsBalanced.enclosed {ts : List (Token α)} (hts : IsBalanced ts) (opened closed : Nat) :
    IsBalanced (⟨.leftParen, opened⟩ :: (ts ++ [⟨.rightParen, closed⟩])) := by
  intro before
  show openTokens (opened :: before) (ts ++ [⟨.rightParen, closed⟩]) = before
  rw [openTokens_append, hts]
  rfl

theorem isBalanced_markTokens (marks : List Nat) : IsBalanced (markTokens marks : List (Token α)) := by
  induction marks with
  | nil => exact isBalanced_nil
  | cons offset marks ih => exact ih.cons fun _ => rfl

theorem Derivation.isBalanced {s : Symbol} (d : Derivation α s) : IsBalanced d.tokens := by
  induction d with
  | chain first links ihFirst ihLinks => exact ihFirst.append ihLinks
  | noLink => exact isBalanced_nil
  | link op mem offset right links ihRight ihLinks => exact (ihRight.append ihLinks).cons fun _ => rfl
  | plain base ih => exact ih
  | power base offset exponent ihBase ihExponent => exact ihBase.append (ihExponent.cons fun _ => rfl)
  | unsigned operand ih => exact ih
  | negated offset operand ih => exact ih.cons fun _ => rfl
  | postfixed operand marks ih => exact ih.append (isBalanced_markTokens marks)
  | number value offset => exact isBalanced_nil.cons fun _ => rfl
  | name text offset => exact isBalanced_nil.cons fun _ => rfl
  | call text offset opened args closed ih => exact (ih.enclosed opened closed).cons fun _ => rfl
  | group opened inner closed ih => exact ih.enclosed opened closed
  | noArguments => exact isBalanced_nil
  | arguments first more ihFirst ihMore => exact ihFirst.append ihMore
  | noMore => exact isBalanced_nil
  | more comma arg more ihArg ihMore => exact (ihArg.append ihMore).cons fun _ => rfl

/-- The last of the tokens is a name: a parenthesis after them would open a call. -/
def EndsInName (ts : List (Token α)) : Prop :=
  ∃ name offset, ts.getLast? = some ⟨.identifier name, offset⟩

theorem not_endsInName_nil : ¬ EndsInName ([] : List (Token α)) := by
  rintro ⟨name, offset, h⟩
  cases h

theorem not_endsInName_concat {ts : List (Token α)} {t : Token α}
    (h : ∀ name, t.kind ≠ .identifier name) : ¬ EndsInName (ts ++ [t]) := by
  rintro ⟨name, offset', hlast⟩
  rw [List.getLast?_concat] at hlast
  cases hlast
  exact h name rfl

/-- After the tokens, the innermost parenthesis that is open is the one of the group at `opened` or of
the call whose name is at `opened`. -/
inductive IsInside (opened : Nat) : List (Token α) → Prop where
  | group {before inside : List (Token α)} (first : ¬ EndsInName before) (balanced : IsBalanced inside) :
      IsInside opened (before ++ ⟨.leftParen, opened⟩ :: inside)
  | call {before inside : List (Token α)} (name : String) (paren : Nat) (balanced : IsBalanced inside) :
      IsInside opened (before ++ ⟨.identifier name, opened⟩ :: ⟨.leftParen, paren⟩ :: inside)

theorem IsInside.append {opened : Nat} {ts us : List (Token α)} (h : IsInside opened ts)
    (hus : IsBalanced us) : IsInside opened (ts ++ us) := by
  cases h with
  | group first balanced =>
    rw [List.append_assoc, List.cons_append]
    exact .group first (balanced.append hus)
  | call name paren balanced =>
    rw [List.append_assoc, List.cons_append, List.cons_append]
    exact .call name paren (balanced.append hus)

end Grammar

/-! ## Where the parsers miss a parenthesis -/

namespace Expr

/-- The report of a missing parenthesis stands before the first token that the innermost open group or
call cannot go on with, and names that group or call. -/
def IsMissed (sourceLength opened : Nat) (ts : List (Token α)) (position : Option Nat) : Prop :=
  ∃ pre rest, ts = pre ++ rest ∧ position = some (place sourceLength rest) ∧ IsInside opened pre

/-- Whatever was read before, the parser misses parentheses only that it has opened itself. -/
structure Parser.Misses (P : Parser α) (sourceLength : Nat) (r : Rule) : Prop
    extends P.Blames sourceLength r where
  missed : ∀ {before ts : List (Token α)} {opened : Nat} {position : Option Nat},
    ¬ EndsInName before → P.run ts = .error ⟨.malformed (.missingParen opened), position⟩ →
    IsMissed sourceLength opened (before ++ ts) position

variable {sourceLength opened : Nat} {position : Option Nat}

theorem grow_ne_missingParen {height offset : Nat} :
    (grow height offset : Answer α Nat) ≠ .error ⟨.malformed (.missingParen opened), position⟩ := by
  intro h
  cases grow_eq_error h

/-- A node over what was read is not refused for a parenthesis. -/
theorem eq_error_of_bind_grow {β γ : Type} {first : Answer α β} {height : β → Nat} {offset : Nat}
    {node : β → Nat → γ}
    (h : (do
      let p ← first
      let height ← grow (height p) offset
      return node p height) = .error ⟨.malformed (.missingParen opened), position⟩) :
    first = .error ⟨.malformed (.missingParen opened), position⟩ := by
  obtain hfirst | ⟨p, -, hrest⟩ := Answer.bind_eq_error_iff.mp h
  · exact hfirst
  · obtain hgrow | ⟨height', -, hpure⟩ := Answer.bind_eq_error_iff.mp hrest
    · exact absurd hgrow grow_ne_missingParen
    · cases hpure

theorem chainFrom_missed {l : Level} {operand : Parser α}
    (misses : operand.Misses sourceLength l.operand) {left : Expr α} {height : Nat}
    {before ts : List (Token α)}
    (h : chainFrom l.operators operand left height ts =
      .error ⟨.malformed (.missingParen opened), position⟩) :
    IsMissed sourceLength opened (before ++ ts) position := by
  -- Before an operand stands an operator, so that a parenthesis there opens a group.
  generalize hops : l.operators = ops at h
  fun_induction chainFrom ops operand left height ts generalizing before with
  | case1 => cases h
  | case2 left height ts op offset afterOp hop failure hright =>
    cases h
    obtain ⟨-, rfl⟩ := takeBinary?_eq_some_iff.mp hop
    rw [List.append_cons]
    exact misses.missed (not_endsInName_concat (by simp)) hright
  | case3 left height ts op offset afterOp hop right hright failure hgrow =>
    cases h
    exact absurd hgrow grow_ne_missingParen
  | case4 left height ts op offset afterOp hop right hright height' hgrow ih =>
    obtain ⟨-, rfl⟩ := takeBinary?_eq_some_iff.mp hop
    obtain ⟨d, -, rfl⟩ := misses.complete hright
    rw [← List.cons_append, ← List.append_assoc]
    exact ih h

theorem Parser.Misses.chain {l : Level} {operand : Parser α}
    (misses : operand.Misses sourceLength l.operand) :
    (Expr.chain l.operators operand).Misses sourceLength (.chain l) where
  toBlames := misses.toBlames.chain
  missed := by
    intro before ts opened position hname h
    rw [chain_run] at h
    obtain hfirst | ⟨first, hfirst, hlinks⟩ := Answer.bind_eq_error_iff.mp h
    · exact misses.missed hname hfirst
    · obtain ⟨d, -, rfl⟩ := misses.complete hfirst
      rw [← List.append_assoc]
      exact chainFrom_missed misses hlinks

theorem Parser.Misses.sumsOf {factor : Parser α} (misses : factor.Misses sourceLength .factor) :
    (sumsOf factor).Misses sourceLength .expr :=
  Parser.Misses.chain (l := .sum) (Parser.Misses.chain (l := .product) misses)

/-- A call misses the parenthesis after its name, and its arguments those inside them. -/
theorem argsFrom_missed {called : Nat} {arg : Parser α} (misses : arg.Misses sourceLength .expr)
    {before ts : List (Token α)} (hname : ¬ EndsInName before) (hinside : IsInside called before)
    (h : argsFrom sourceLength called arg ts = .error ⟨.malformed (.missingParen opened), position⟩) :
    IsMissed sourceLength opened (before ++ ts) position := by
  -- Each argument leaves the parenthesis of the call the innermost one that is open.
  fun_induction argsFrom sourceLength called arg ts generalizing before with
  | case1 ts failure harg =>
    cases h
    exact misses.missed hname harg
  | case2 ts first harg offset afterComma hrest failure hmore ih =>
    cases h
    obtain ⟨d, -, rfl⟩ := misses.complete harg
    have hargument : IsBalanced (d.tokens ++ [⟨.comma, offset⟩]) :=
      d.isBalanced.append (isBalanced_nil.cons fun _ => rfl)
    rw [hrest, List.append_cons, ← List.append_assoc]
    refine ih ?_ (hinside.append hargument) hmore
    rw [← List.append_assoc]
    exact not_endsInName_concat (by simp)
  | case3 => cases h
  | case4 => cases h
  | case5 ts first harg hcomma hclosed =>
    obtain ⟨d, -, rfl⟩ := misses.complete harg
    rw [missingParen_eq] at h
    cases h
    exact ⟨before ++ d.tokens, first.rest, (List.append_assoc _ _ _).symm, rfl,
      hinside.append d.isBalanced⟩

theorem callArgs_missed {called : Nat} {arg : Parser α} (misses : arg.Misses sourceLength .expr)
    {before ts : List (Token α)} (hname : ¬ EndsInName before) (hinside : IsInside called before)
    (h : callArgs sourceLength called arg ts = .error ⟨.malformed (.missingParen opened), position⟩) :
    IsMissed sourceLength opened (before ++ ts) position := by
  unfold callArgs at h
  split at h
  · cases h
  · exact argsFrom_missed misses hname hinside h

/-- What reads the inside of an enclosure, if any level is left. -/
def MissesInside (sourceLength : Nat) (r : Rule) (inner : Option (Parser α)) : Prop :=
  ∀ P ∈ inner, P.Misses sourceLength r

theorem MissesInside.blames {r : Rule} {inner : Option (Parser α)}
    (misses : MissesInside sourceLength r inner) : BlamesInside sourceLength r inner :=
  fun P hP => (misses P hP).toBlames

section Primary

variable {inner : Parser α} (misses : inner.Misses sourceLength .expr) {before rest : List (Token α)}

include misses

theorem primary_call_missed {name : String} {offset paren : Nat}
    (h : (Expr.primary sourceLength (some inner)).run
      (⟨.identifier name, offset⟩ :: ⟨.leftParen, paren⟩ :: rest) =
        .error ⟨.malformed (.missingParen opened), position⟩) :
    IsMissed sourceLength opened
      (before ++ ⟨.identifier name, offset⟩ :: ⟨.leftParen, paren⟩ :: rest) position := by
  rw [primary_run_call] at h
  rw [List.append_cons, List.append_cons]
  have hinside : IsInside offset (before ++ [⟨.identifier name, offset⟩] ++ [⟨.leftParen, paren⟩]) := by
    rw [List.append_assoc]
    exact .call name paren isBalanced_nil
  exact callArgs_missed misses (not_endsInName_concat (by simp)) hinside (eq_error_of_bind_grow h)

theorem primary_group_missed (hname : ¬ EndsInName before) {offset : Nat}
    (h : (Expr.primary sourceLength (some inner)).run (⟨.leftParen, offset⟩ :: rest) =
      .error ⟨.malformed (.missingParen opened), position⟩) :
    IsMissed sourceLength opened (before ++ ⟨.leftParen, offset⟩ :: rest) position := by
  rw [List.append_cons]
  simp only [Expr.primary] at h
  split at h
  · rename_i failure hinner
    cases h
    exact misses.missed (not_endsInName_concat (by simp)) hinner
  · rename_i p hinner
    split at h
    · cases h
    · obtain ⟨d, -, rfl⟩ := misses.complete hinner
      have hinside : IsInside offset (before ++ [⟨.leftParen, offset⟩]) := .group hname isBalanced_nil
      rw [missingParen_eq] at h
      cases h
      exact ⟨_, _, (List.append_assoc _ _ _).symm, rfl, hinside.append d.isBalanced⟩

end Primary

theorem MissesInside.primary {inner : Option (Parser α)}
    (misses : MissesInside sourceLength .expr inner) :
    (Expr.primary sourceLength inner).Misses sourceLength .primary where
  toBlames := misses.blames.primary
  missed := by
    intro before ts opened position hname h
    have hrun := h
    simp only [Expr.primary] at h
    split at h
    · cases h
    · cases h
    · cases inner with
      | none => cases h
      | some inner => exact primary_call_missed (misses inner rfl) hrun
    · cases h
    · cases inner with
      | none => cases h
      | some inner => exact primary_group_missed (misses inner rfl) hname hrun
    · cases h

theorem Parser.Misses.postfixed {operand : Parser α}
    (misses : operand.Misses sourceLength .primary) :
    (Expr.postfixed operand).Misses sourceLength .postfixed where
  toBlames := misses.toBlames.postfixed
  missed := by
    intro before ts opened position hname h
    rw [postfixed_run] at h
    obtain hoperand | ⟨p, -, hmarks⟩ := Answer.bind_eq_error_iff.mp h
    · exact misses.missed hname hoperand
    · obtain ⟨t, -, hdeep⟩ := factorialsFrom_eq_error hmarks
      cases hdeep

theorem Parser.Misses.signed {operand : Parser α}
    (misses : operand.Misses sourceLength .postfixed) :
    (Expr.signed operand).Misses sourceLength .unary where
  toBlames := misses.toBlames.signed
  missed := by
    intro before ts opened position hname h
    have hrun := h
    simp only [Expr.signed] at h
    split at h
    · rename_i offset rest
      rw [signed_run_minus] at hrun
      rw [List.append_cons]
      exact misses.missed (not_endsInName_concat (by simp)) (eq_error_of_bind_grow hrun)
    · exact misses.missed hname h

theorem Parser.Misses.raised {base : Parser α} {exponent : Option (Parser α)}
    (misses : base.Misses sourceLength .unary)
    (inside : MissesInside sourceLength .factor exponent) :
    (Expr.raised base exponent).Misses sourceLength .factor where
  toBlames := misses.toBlames.raised inside.blames
  missed := by
    intro before ts opened position hname h
    have hrun := h
    simp only [Expr.raised] at h
    split at h
    · rename_i failure hbase
      cases h
      exact misses.missed hname hbase
    · rename_i p hbase
      split at h
      · cases h
      · rename_i op offset afterOp hop
        cases exponent with
        | none => cases h
        | some inner =>
          rw [raised_run_of_take hbase hop] at hrun
          obtain ⟨d, -, rfl⟩ := misses.complete hbase
          obtain ⟨-, hrest⟩ := takeBinary?_eq_some_iff.mp hop
          rw [hrest, ← List.append_assoc, List.append_cons]
          exact (inside inner rfl).missed (not_endsInName_concat (by simp)) (eq_error_of_bind_grow hrun)

theorem MissesInside.sumsOf {inner : Option (Parser α)}
    (misses : MissesInside sourceLength .factor inner) :
    MissesInside sourceLength .expr (inner.map Expr.sumsOf) := by
  intro P hP
  obtain ⟨Q, hQ, rfl⟩ := Option.map_eq_some_iff.mp hP
  exact (misses Q hQ).sumsOf

theorem MissesInside.factorWithin {inner : Option (Parser α)}
    (misses : MissesInside sourceLength .factor inner) :
    (Expr.factorWithin sourceLength inner).Misses sourceLength .factor :=
  misses.sumsOf.primary.postfixed.signed.raised misses

theorem factor_misses (sourceLength levels : Nat) :
    (factor sourceLength levels : Parser α).Misses sourceLength .factor := by
  induction levels with
  | zero => exact MissesInside.factorWithin nofun
  | succ levels ih => exact MissesInside.factorWithin fun P hP => Option.some.inj hP ▸ ih

theorem sums_misses (sourceLength : Nat) : (sums sourceLength : Parser α).Misses sourceLength .expr :=
  (factor_misses sourceLength maxDepth).sumsOf

theorem ofTokens_missed {ts : List (Token α)}
    (h : ofTokens sourceLength ts = .error ⟨.malformed (.missingParen opened), position⟩) :
    IsMissed sourceLength opened ts position := by
  unfold ofTokens at h
  split at h
  · cases h
  · split at h
    · rename_i failure hrun
      cases h
      exact (sums_misses sourceLength).missed not_endsInName_nil hrun
    · split at h
      · cases h
      · unfold leftover at h
        split at h <;> cases h

/-! ## The parenthesis that is reported -/

/-- A token stands in a source once. -/
theorem eq_of_append_cons_eq {source : String} {us us' vs vs' : List (Token Float)} {t : Token Float}
    (h : tokenize source = .ok (us ++ t :: vs)) (heq : us ++ t :: vs = us' ++ t :: vs') : us = us' := by
  have hnodup : (us ++ t :: vs).Nodup := (nodup_offset h).of_map Token.offset
  have hmem : t ∉ us ++ vs := (List.nodup_cons.mp (List.nodup_middle.mp hnodup)).1
  rw [List.mem_append, not_or] at hmem
  exact ((List.append_cons_inj_of_notMem hmem.1 hmem.2).mp heq).1

theorem offset_lt_of_adjacent {source : String} {ts : List (Token Float)} (h : tokenize source = .ok ts)
    {t u : Token Float} (hnext : [t, u] <:+: ts) : t.offset < u.offset := by
  have hpair := (pairwise_offset_lt h).sublist (hnext.sublist.map Token.offset)
  exact List.pairwise_pair.mp hpair

/-- A missing parenthesis is reported for the innermost one that is open at the place of the report. The
report names that parenthesis, unless it is the one of a call: then it names the name of the call. -/
theorem parse_missingParen {source : String} {opened : Nat} {position : Option Nat}
    (h : parse source = .error ⟨.malformed (.missingParen opened), position⟩) :
    ∃ ts stop innermost outer, tokenize source = .ok ts ∧ position = some stop ∧
      openParens [] 0 (source.toList.take stop) = innermost :: outer ∧
      source.toList[innermost]? = some '(' ∧
      ((opened = innermost ∧
          ∀ name offset, ¬ [⟨.identifier name, offset⟩, ⟨.leftParen, innermost⟩] <:+: ts) ∨
        (opened < innermost ∧
          ∃ name, [⟨.identifier name, opened⟩, ⟨.leftParen, innermost⟩] <:+: ts)) := by
  unfold parse at h
  cases htokens : tokenize source with
  | error failure =>
    obtain ⟨_, _, _, -, -, rfl⟩ := exists_stuckAt_of_tokenize_eq_error htokens
    rw [htokens] at h
    cases h
  | ok ts =>
    rw [htokens] at h
    obtain ⟨pre, rest, rfl, rfl, hinside⟩ := ofTokens_missed h
    obtain ⟨front, back, hsplit, hplace, hopen⟩ := exists_openParens_eq htokens
    have htake : source.toList.take (place source.length rest) = front := by
      rw [← String.length_toList, ← Nat.zero_add source.toList.length, hplace, hsplit, Nat.zero_add,
        List.take_left]
    cases hinside with
    | @group before inside first balanced =>
      refine ⟨_, _, opened, openTokens [] before, rfl, rfl, ?_, paren_of_mem htokens (by simp),
        .inl ⟨rfl, ?_⟩⟩
      · rw [htake, hopen, openTokens_append]
        exact balanced _
      · rintro name offset ⟨us, vs, hcall⟩
        rw [List.append_assoc, List.cons_append] at htokens hcall
        have hbefore : before = us ++ [⟨.identifier name, offset⟩] :=
          eq_of_append_cons_eq htokens (by simpa using hcall.symm)
        exact first ⟨name, offset, by rw [hbefore, List.getLast?_concat]⟩
    | @call before inside name paren balanced =>
      have hcall : [⟨.identifier name, opened⟩, ⟨.leftParen, paren⟩] <:+:
          before ++ ⟨.identifier name, opened⟩ :: ⟨.leftParen, paren⟩ :: inside ++ rest :=
        ⟨before, inside ++ rest, by simp⟩
      refine ⟨_, _, paren, openTokens [] before, rfl, rfl, ?_, paren_of_mem htokens (by simp),
        .inr ⟨offset_lt_of_adjacent htokens hcall, name, hcall⟩⟩
      rw [htake, hopen, openTokens_append]
      exact balanced _

/-- The group is closed and the call around it is not. The report names the name of the call, and its
parenthesis stands behind a blank. -/
theorem parse_missingParen_max :
    ∃ opened position, parse "2*max (1, (3)" = .error ⟨.malformed (.missingParen opened), position⟩ ∧
      ∃ ts stop innermost outer, tokenize "2*max (1, (3)" = .ok ts ∧ position = some stop ∧
        openParens [] 0 ("2*max (1, (3)".toList.take stop) = innermost :: outer ∧
        "2*max (1, (3)".toList[innermost]? = some '(' ∧
        ((opened = innermost ∧
            ∀ name offset, ¬ [⟨.identifier name, offset⟩, ⟨.leftParen, innermost⟩] <:+: ts) ∨
          (opened < innermost ∧
            ∃ name, [⟨.identifier name, opened⟩, ⟨.leftParen, innermost⟩] <:+: ts)) := by
  have hfailure : (parse "2*max (1, (3)").failure? = some ((Cause.malformed (.missingParen 2)).at 13) := by
    decide +kernel
  have hparse := Answer.eq_error_of_failure? hfailure
  exact ⟨2, some 13, hparse, parse_missingParen hparse⟩

end Expr

end Reckoner
