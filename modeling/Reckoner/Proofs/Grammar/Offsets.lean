import Mathlib.Data.List.Nodup
import Reckoner.Proofs.Grammar.Origins
import Reckoner.Proofs.Token.Splitting

/-!
# The offsets in a tree

The nodes of a tree that carry an offset come in the order of the tokens they were read from, so each of
them has an offset of its own. What stands in the source there is the name or the mark of the node. A
name is a call when an opening parenthesis is the next token, and a variable when it is not; nothing
that may follow an operand begins with one.
-/

namespace Reckoner

namespace Expr

variable {α : Type}

mutual

/-- The nodes that carry an offset, in the order of the source: for each its offset, and whether it is a
call. -/
def carriers : Expr α → List (Nat × Bool)
  | literal _ => []
  | variableRef _ offset => [(offset, false)]
  | unary .neg operand => carriers operand
  | unary (.factorial offset) operand => carriers operand ++ [(offset, false)]
  | binary _ left right => carriers left ++ carriers right
  | call _ args offset => (offset, true) :: allCarriers args

/-- The nodes of some trees that carry an offset. -/
def allCarriers : List (Expr α) → List (Nat × Bool)
  | [] => []
  | e :: rest => carriers e ++ allCarriers rest

end

/-- The offsets in a tree, one for every node that carries one. -/
def offsets (e : Expr α) : List Nat := e.carriers.map Prod.fst

theorem allCarriers_singleton (e : Expr α) : allCarriers [e] = e.carriers := by
  rw [allCarriers, allCarriers, List.append_nil]

theorem carriers_subset_allCarriers {e : Expr α} {es : List (Expr α)} (h : e ∈ es) :
    e.carriers ⊆ allCarriers es := by
  induction es with
  | nil => cases h
  | cons first rest ih =>
    rw [allCarriers]
    obtain rfl | hrest := List.mem_cons.mp h
    · exact List.subset_append_left _ _
    · exact List.subset_append_of_subset_right _ (ih hrest)

theorem mem_carriers_of_variableRef {name : String} {offset : Nat} {e : Expr α}
    (h : Within (variableRef name offset) e) : (offset, false) ∈ e.carriers := by
  induction h with
  | self => exact List.mem_singleton_self _
  | @operand op e _ ih =>
    cases op with
    | neg => exact ih
    | factorial mark => exact List.mem_append_left _ ih
  | left _ ih => exact List.mem_append_left _ ih
  | right _ ih => exact List.mem_append_right _ ih
  | argument mem _ ih => exact List.mem_cons_of_mem _ (carriers_subset_allCarriers mem ih)

end Expr

namespace Grammar

open Reckoner.Expr

variable {α : Type}

theorem carriers_joined (left : Expr α) (links : List (BinaryOperator × Expr α)) :
    (joined left links).carriers = left.carriers ++ allCarriers (links.map Prod.snd) := by
  induction links generalizing left with
  | nil => exact (List.append_nil _).symm
  | cons link links ih =>
    have hjoined := ih (.binary link.1 left link.2)
    rw [carriers, List.append_assoc] at hjoined
    exact hjoined

theorem carriers_marked (e : Expr α) (marks : List Nat) :
    (marked e marks).carriers = e.carriers ++ marks.map fun offset => (offset, false) := by
  induction marks generalizing e with
  | nil => exact (List.append_nil _).symm
  | cons offset marks ih =>
    have hmarked := ih (.unary (.factorial offset) e)
    rw [carriers, List.append_assoc] at hmarked
    exact hmarked

/-- An opening parenthesis is the next token. -/
def opensNext : List (Token α) → Bool
  | ⟨.leftParen, _⟩ :: _ => true
  | _ => false

/-- For every token its offset, and whether an opening parenthesis is next; `rest` comes after the
last. -/
def lookahead (rest : List (Token α)) : List (Token α) → List (Nat × Bool)
  | [] => []
  | t :: ts => (t.offset, opensNext (ts ++ rest)) :: lookahead rest ts

theorem lookahead_append (rest us vs : List (Token α)) :
    lookahead rest (us ++ vs) = lookahead (vs ++ rest) us ++ lookahead rest vs := by
  induction us with
  | nil => rfl
  | cons t us ih => simp only [List.cons_append, lookahead, List.append_assoc, ih]

theorem map_fst_lookahead (rest ts : List (Token α)) :
    (lookahead rest ts).map Prod.fst = ts.map Token.offset := by
  induction ts with
  | nil => rfl
  | cons t ts ih => rw [lookahead, List.map_cons, List.map_cons, ih]

theorem opensNext_of_stops {n : Nat} {ts : List (Token α)} (h : Stops n ts) : opensNext ts = false := by
  unfold opensNext
  split
  · exact absurd h (by simp)
  · rfl

theorem lookahead_markTokens {rest : List (Token α)} (h : Stops 1 rest) (marks : List Nat) :
    lookahead rest (markTokens marks) = marks.map fun offset => (offset, false) := by
  induction marks with
  | nil => rfl
  | cons offset marks ih =>
    have hnext : opensNext (markTokens marks ++ rest) = false :=
      opensNext_of_stops (stops_markTokens h marks)
    show (offset, opensNext (markTokens marks ++ rest)) :: lookahead rest (markTokens marks) = _
    rw [hnext, ih, List.map_cons]

/-- The nodes that carry an offset come in the order of their tokens, and among them the calls are those
with a parenthesis next. -/
theorem Derivation.carriers_sublist {s : Symbol} (d : Derivation α s) {rest : List (Token α)}
    (hrest : s.Ends rest) : (allCarriers (Symbol.trees s d.tree)).Sublist (lookahead rest d.tokens) := by
  -- Every part is followed by what ends it, so that the parenthesis next to a token is in the part.
  induction d generalizing rest with
  | chain first links ihFirst ihLinks =>
    have hfirst := ihFirst (links.stops_tokens_links hrest)
    simp only [Symbol.trees, tree, tokens, allCarriers_singleton, carriers_joined,
      lookahead_append] at hfirst ⊢
    exact hfirst.append (ihLinks hrest)
  | noLink => exact List.nil_sublist _
  | link op mem offset right links ihRight ihLinks =>
    have hright := ihRight (links.stops_tokens_links hrest)
    rw [tokens, lookahead, lookahead_append]
    rw [Symbol.trees, allCarriers_singleton] at hright
    exact (hright.append (ihLinks hrest)).cons _
  | plain base ih => exact ih (hrest.mono (by decide))
  | power base offset exponent ihBase ihExponent =>
    have hbase := ihBase (ends_unary_power offset (exponent.tokens ++ rest))
    have hexponent := ihExponent hrest
    simp only [Symbol.trees, tree, tokens, allCarriers_singleton, carriers, lookahead_append,
      lookahead] at hbase hexponent ⊢
    exact hbase.append (hexponent.cons _)
  | unsigned operand ih => exact ih hrest
  | negated offset operand ih => exact (ih hrest).cons _
  | postfixed operand marks ih =>
    have hoperand := ih (stops_markTokens hrest marks)
    simp only [Symbol.trees, tree, tokens, allCarriers_singleton, carriers_marked,
      lookahead_append] at hoperand ⊢
    rw [lookahead_markTokens hrest]
    exact hoperand.append (List.Sublist.refl _)
  | number value offset => exact List.nil_sublist _
  | name text offset =>
    have hnext : opensNext rest = false := opensNext_of_stops hrest
    show [(offset, false)].Sublist [(offset, opensNext rest)]
    rw [hnext]
  | call text offset opened args closed ih =>
    have hargs := @ih (⟨.rightParen, closed⟩ :: rest) ⟨closed, rest, rfl⟩
    simp only [Symbol.trees, tree, tokens, allCarriers_singleton, carriers, lookahead,
      lookahead_append] at hargs ⊢
    exact ((hargs.trans (List.sublist_append_left _ _)).cons _).cons_cons _
  | group opened inner closed ih =>
    have hinner := ih (stops_rightParen Rule.expr.rank closed rest)
    rw [tokens, lookahead, lookahead_append]
    exact (hinner.trans (List.sublist_append_left _ _)).cons _
  | noArguments => exact List.nil_sublist _
  | arguments first more ihFirst ihMore =>
    have hfirst := ihFirst (more.stops_tokens_more hrest Rule.expr.rank)
    rw [tokens, lookahead_append]
    rw [Symbol.trees, allCarriers_singleton] at hfirst
    exact hfirst.append (ihMore hrest)
  | noMore => exact List.nil_sublist _
  | more comma arg more ihArg ihMore =>
    have harg := ihArg (more.stops_tokens_more hrest Rule.expr.rank)
    rw [tokens, lookahead, lookahead_append]
    rw [Symbol.trees, allCarriers_singleton] at harg
    exact (harg.append (ihMore hrest)).cons _

theorem mem_lookahead_of_adjacent {t : Token α} {opened : Nat} {ts : List (Token α)}
    (h : [t, ⟨.leftParen, opened⟩] <:+: ts) (rest : List (Token α)) :
    (t.offset, true) ∈ lookahead rest ts := by
  obtain ⟨pre, post, rfl⟩ := h
  simp [lookahead_append, lookahead, opensNext]

end Grammar

namespace Expr

open Grammar

/-- The tokens of a tree, in order: they are those of its nodes, and they have an offset each. -/
theorem carriers_sublist_of_parse {source : String} {e : Expr Float} (h : parse source = .ok e) :
    ∃ ts, tokenize source = .ok ts ∧ e.carriers.Sublist (lookahead [] ts) := by
  unfold parse at h
  cases htokens : tokenize source with
  | error failure =>
    rw [htokens] at h
    cases h
  | ok ts =>
    rw [htokens] at h
    obtain ⟨d, -, rfl, rfl⟩ := ofTokens_eq_ok_iff.mp h
    have hsublist := d.carriers_sublist (stops_nil Rule.expr.rank)
    rw [Symbol.trees, allCarriers_singleton] at hsublist
    exact ⟨d.tokens, rfl, hsublist⟩

/-- Two tokens of one offset are one token. -/
theorem nodup_map_fst_lookahead {source : String} {ts : List (Token Float)}
    (h : tokenize source = .ok ts) : ((lookahead [] ts).map Prod.fst).Nodup := by
  rw [map_fst_lookahead]
  exact nodup_offset h

theorem not_calledAt_of_variableRef {source : String} {e : Expr Float} (h : parse source = .ok e)
    {name : String} {offset : Nat} (hpart : Within (variableRef name offset) e) :
    ¬ CalledAt source.toList offset name := by
  obtain ⟨ts, hts, hsublist⟩ := carriers_sublist_of_parse h
  obtain ⟨us, hus, hstands⟩ := allStandIn_of_parse h
  obtain rfl : ts = us := Except.ok.inj (hts.symm.trans hus)
  intro hcalled
  obtain ⟨opened, hnext⟩ := adjacent_of_calledAt hts (hstands _ hpart) hcalled
  have hcall := mem_lookahead_of_adjacent hnext []
  have hvariable := hsublist.subset (mem_carriers_of_variableRef hpart)
  have hsame := List.inj_on_of_nodup_map (nodup_map_fst_lookahead hts) hcall hvariable rfl
  cases hsame

/-- The offsets in a tree point at their text: a variable or a call at its name, with an opening
parenthesis next to it in the case of a call only, and a factorial at its mark. Every literal is the
value of a number of the source, and no two nodes have one offset. -/
theorem offsets_of_parse {source : String} {e : Expr Float} (h : parse source = .ok e) :
    (∀ name offset, Within (variableRef name offset) e →
      (∃ after, NameAt source.toList offset name after) ∧ ¬ CalledAt source.toList offset name) ∧
    (∀ name args offset, Within (call name args offset) e → CalledAt source.toList offset name) ∧
    (∀ offset operand, Within (unary (.factorial offset) operand) e →
      source.toList[offset]? = some '!') ∧
    (∀ value, Within (literal value) e → ∃ offset span after,
      source.toList.drop offset = span ++ after ∧ Lexeme.Spells span after (.number value)) ∧
    e.offsets.Nodup := by
  obtain ⟨ts, hts, hstands⟩ := allStandIn_of_parse h
  refine ⟨fun name offset hpart => ?_, fun name args offset hpart => ?_, fun offset operand hpart => ?_,
    fun value hpart => ?_, ?_⟩
  · exact ⟨nameAt_of_mem hts (hstands _ hpart), not_calledAt_of_variableRef h hpart⟩
  · obtain ⟨opened, hnext⟩ := hstands _ hpart
    exact calledAt_of_adjacent hts hnext
  · exact mark_of_mem hts (hstands _ hpart)
  · obtain ⟨offset, hmem⟩ := hstands _ hpart
    obtain ⟨c, rest, more, htoken⟩ := isReadIn_of_mem hts hmem
    obtain ⟨span, after, hsplit, -, hspells⟩ := Lexeme.exists_spells_of_read htoken.read
    exact ⟨offset, span, after, htoken.stands.trans hsplit, hspells⟩
  · obtain ⟨us, hus, hsublist⟩ := carriers_sublist_of_parse h
    exact (nodup_map_fst_lookahead hus).sublist (hsublist.map Prod.fst)

/-- A factorial behind blanks, a call behind a blank, and a letter that is more than one byte. -/
theorem offsets_of_parse_blanks :
    ∃ e, parse "x  ! + max (2, π)" = .ok e ∧
      (∀ name offset, Within (variableRef name offset) e →
        (∃ after, NameAt "x  ! + max (2, π)".toList offset name after) ∧
          ¬ CalledAt "x  ! + max (2, π)".toList offset name) ∧
      (∀ name args offset, Within (call name args offset) e →
        CalledAt "x  ! + max (2, π)".toList offset name) ∧
      (∀ offset operand, Within (unary (.factorial offset) operand) e →
        "x  ! + max (2, π)".toList[offset]? = some '!') ∧
      (∀ value, Within (literal value) e → ∃ offset span after,
        "x  ! + max (2, π)".toList.drop offset = span ++ after ∧
          Lexeme.Spells span after (.number value)) ∧
      e.offsets.Nodup := by
  have hread : (parse "x  ! + max (2, π)").toOption.map offsets = some [0, 3, 7, 15] := by
    decide +kernel
  obtain ⟨e, hparse, -⟩ := Answer.exists_eq_ok_of_map hread
  exact ⟨e, hparse, offsets_of_parse hparse⟩

end Expr

end Reckoner
