import Reckoner.Proofs.Decimal.Numerals
import Reckoner.Token.Scan

/-!
# The longest numeral

A numeral is read at a place exactly when one stands there, and then it is the longest that does.
-/

namespace Reckoner

namespace Lexeme

/-! ## What the runs count -/

theorem digitRun_append {run : List Char} (h : ∀ c ∈ run, c.isDigit = true) (rest : List Char) :
    digitRun (run ++ rest) = run.length + digitRun rest := by
  rw [digitRun, List.takeWhile_append_of_pos h, List.length_append, digitRun]

theorem digitRun_eq_zero {cs : List Char} (h : ∀ c ∈ cs.head?, c.isDigit = false) :
    digitRun cs = 0 := by
  cases cs with
  | nil => rfl
  | cons c rest => simp [digitRun, h c rfl]

theorem fractionRun_eq_zero {cs : List Char} (h : ∀ rest, cs ≠ '.' :: rest) : fractionRun cs = 0 := by
  unfold fractionRun
  split
  · rename_i rest
    exact absurd rfl (h rest)
  · rfl

theorem exponentRun_eq_zero {cs : List Char} (h : ∀ c ∈ cs.head?, ¬ (c = 'e' ∨ c = 'E')) :
    exponentRun cs = 0 := by
  cases cs with
  | nil => rfl
  | cons c rest => exact if_neg (h c rfl)

theorem exponentRun_signed {mark sign : Char} (hmark : mark = 'e' ∨ mark = 'E')
    (hsign : sign = '+' ∨ sign = '-') (ds : List Char) :
    exponentRun (mark :: sign :: ds) = if digitRun ds = 0 then 0 else 2 + digitRun ds :=
  (if_pos hmark).trans (if_pos hsign)

theorem exponentRun_unsigned {mark : Char} (hmark : mark = 'e' ∨ mark = 'E') {ds : List Char}
    (hsign : ∀ c ∈ ds.head?, ¬ (c = '+' ∨ c = '-')) :
    exponentRun (mark :: ds) = if digitRun ds = 0 then 0 else 1 + digitRun ds := by
  refine (if_pos hmark).trans ?_
  cases ds with
  | nil => rfl
  | cons c ds => exact if_neg (hsign c rfl)

theorem exponentRun_text_append (e : Numeral.Exponent) (rest : List Char) :
    exponentRun (e.text ++ rest) = e.text.length + digitRun rest := by
  have hrun : digitRun (e.digits ++ rest) = e.digits.length + digitRun rest :=
    digitRun_append e.isDigit rest
  have hpos : e.digits.length ≠ 0 := fun h => e.digits_ne_nil (List.length_eq_zero_iff.mp h)
  rw [Numeral.Exponent.text, List.cons_append, List.append_assoc]
  cases hsign : e.sign with
  | none =>
    have hhead : ∀ c ∈ (e.digits ++ rest).head?, ¬ (c = '+' ∨ c = '-') := by
      obtain ⟨d, ds, hds⟩ := List.exists_cons_of_ne_nil e.digits_ne_nil
      have hd : d.isDigit = true := e.isDigit d (hds ▸ List.mem_cons_self)
      rw [hds]
      rintro _ ⟨⟩ (rfl | rfl) <;> cases hd
    rw [Option.toList_none, List.nil_append, List.nil_append, exponentRun_unsigned e.mark_eq hhead,
      hrun, if_neg (by omega)]
    simp only [List.length_cons]
    omega
  | some c =>
    rw [Option.toList_some, List.singleton_append, List.singleton_append,
      exponentRun_signed e.mark_eq (e.sign_eq c hsign), hrun, if_neg (by omega)]
    simp only [List.length_cons]
    omega

/-- Digits that no digit follows are counted, and then a fraction and an exponent. -/
theorem numeralRun_append {run rest : List Char} (hrun : ∀ c ∈ run, c.isDigit = true)
    (hrest : ∀ c ∈ rest.head?, c.isDigit = false) :
    numeralRun (run ++ rest) =
      run.length + fractionRun rest + exponentRun (rest.drop (fractionRun rest)) := by
  have hcount : digitRun (run ++ rest) = run.length := by
    rw [digitRun_append hrun, digitRun_eq_zero hrest, Nat.add_zero]
  rw [numeralRun, hcount, List.drop_left, ← List.drop_drop, List.drop_left]

theorem fractionRun_append {ds : List Char} (hds : ∀ c ∈ ds, c.isDigit = true) (rest : List Char) :
    fractionRun ('.' :: (ds ++ rest)) = 1 + ds.length + digitRun rest := by
  rw [fractionRun, digitRun_append hds, Nat.add_assoc]

/-- A numeral is no longer than what is counted where it stands. -/
theorem length_text_le_numeralRun (n : Numeral) (rest : List Char) :
    n.text.length ≤ numeralRun (n.text ++ rest) := by
  rw [Numeral.text, Numeral.mantissa, Numeral.exponentText]
  cases hplaces : n.places with
  | none =>
    cases hexponent : n.exponent with
    | none =>
      simp only [Option.elim_none, List.append_nil, numeralRun, digitRun_append n.isDigit_whole]
      omega
    | some e =>
      have hmark : ∀ c ∈ (e.text ++ rest).head?, c.isDigit = false := by
        rintro c ⟨⟩
        exact e.isDigit_mark
      have hpoint : ∀ after, e.text ++ rest ≠ '.' :: after := fun after h =>
        e.mark_ne_point (List.head_eq_of_cons_eq h)
      simp only [Option.elim_none, Option.elim_some, List.append_nil, List.append_assoc,
        numeralRun_append n.isDigit_whole hmark, fractionRun_eq_zero hpoint, List.drop_zero,
        exponentRun_text_append, List.length_append]
      omega
  | some ds =>
    have hds := n.isDigit_places ds hplaces
    have hpoint : ∀ more : List Char, ∀ c ∈ ('.' :: more).head?, c.isDigit = false := by
      rintro more _ ⟨⟩
      rfl
    cases hexponent : n.exponent with
    | none =>
      simp only [Option.elim_none, Option.elim_some, List.append_nil, List.append_assoc,
        List.cons_append, numeralRun_append n.isDigit_whole (hpoint _), fractionRun_append hds,
        List.length_append, List.length_cons]
      omega
    | some e =>
      have hmark : ∀ c ∈ (e.text ++ rest).head?, c.isDigit = false := by
        rintro c ⟨⟩
        exact e.isDigit_mark
      have hdrop : ('.' :: (ds ++ (e.text ++ rest))).drop (1 + ds.length) = e.text ++ rest := by
        rw [Nat.add_comm, List.drop_succ_cons, List.drop_left]
      simp only [Option.elim_some, List.append_assoc, List.cons_append,
        numeralRun_append n.isDigit_whole (hpoint _), fractionRun_append hds,
        digitRun_eq_zero hmark, Nat.add_zero, hdrop, exponentRun_text_append, List.length_append,
        List.length_cons]
      omega

/-! ## Numerals where they are read -/

theorem startsNumeral_of_text_append {n : Numeral} {rest cs : List Char} {c : Char}
    (h : n.text ++ rest = c :: cs) : startsNumeral c cs = true := by
  rw [Numeral.text, Numeral.mantissa, List.append_assoc, List.append_assoc] at h
  cases hwhole : n.whole with
  | cons d ds =>
    rw [hwhole] at h
    obtain rfl : d = c := List.head_eq_of_cons_eq h
    have hd : d.isDigit = true := n.isDigit_whole d (hwhole ▸ List.mem_cons_self)
    rw [startsNumeral, hd, Bool.true_or]
  | nil =>
    -- The digit stands right after the point.
    obtain ⟨ds, hplaces, hne⟩ := n.hasDigit.resolve_left (not_not_intro hwhole)
    obtain ⟨d, ds, rfl⟩ := List.exists_cons_of_ne_nil hne
    have hd : d.isDigit = true := n.isDigit_places _ hplaces d List.mem_cons_self
    rw [hwhole, Option.mem_def.mp hplaces] at h
    cases h
    simp [startsNumeral, hd]

theorem takeWhile_eq_take_digitRun (cs : List Char) :
    cs.takeWhile Char.isDigit = cs.take (digitRun cs) :=
  List.prefix_iff_eq_take.mp (List.takeWhile_prefix _)

theorem isDigit_of_mem_takeWhile {cs : List Char} :
    ∀ c ∈ cs.takeWhile Char.isDigit, c.isDigit = true :=
  List.all_eq_true.mp List.all_takeWhile

theorem takeWhile_ne_nil_of_digitRun {cs : List Char} (h : digitRun cs ≠ 0) :
    cs.takeWhile Char.isDigit ≠ [] :=
  fun hnil => h (congrArg List.length hnil)

/-- What is counted for an exponent is one, and nothing is counted where none stands. -/
theorem exists_exponent_eq_take (cs : List Char) :
    ∃ e : Option Numeral.Exponent, e.elim [] Numeral.Exponent.text = cs.take (exponentRun cs) ∧
      (exponentRun cs = 0 → e = none) := by
  by_cases hzero : exponentRun cs = 0
  · exact ⟨none, by rw [hzero]; rfl, fun _ => rfl⟩
  · have hmark : ∃ mark rest, cs = mark :: rest ∧ (mark = 'e' ∨ mark = 'E') := by
      cases cs with
      | nil => exact absurd rfl hzero
      | cons mark rest => exact ⟨mark, rest, rfl, by_contra fun hmark => hzero (if_neg hmark)⟩
    obtain ⟨mark, rest, rfl, hmark⟩ := hmark
    by_cases hsign : ∃ sign ds, rest = sign :: ds ∧ (sign = '+' ∨ sign = '-')
    · obtain ⟨sign, ds, rfl, hsign⟩ := hsign
      rw [exponentRun_signed hmark hsign] at hzero ⊢
      have hdigits : digitRun ds ≠ 0 := fun h => hzero (if_pos h)
      refine ⟨some ⟨mark, some sign, ds.takeWhile Char.isDigit, hmark, by simpa using hsign,
        takeWhile_ne_nil_of_digitRun hdigits, isDigit_of_mem_takeWhile⟩, ?_, fun h => absurd h hzero⟩
      rw [if_neg hdigits, Nat.add_comm, List.take_succ_cons, List.take_succ_cons,
        ← takeWhile_eq_take_digitRun]
      rfl
    · have hhead : ∀ c ∈ rest.head?, ¬ (c = '+' ∨ c = '-') := by
        intro c hc h
        obtain ⟨ds, hds⟩ := List.head?_eq_some_iff.mp hc
        exact hsign ⟨c, ds, hds, h⟩
      rw [exponentRun_unsigned hmark hhead] at hzero ⊢
      have hdigits : digitRun rest ≠ 0 := fun h => hzero (if_pos h)
      refine ⟨some ⟨mark, none, rest.takeWhile Char.isDigit, hmark, nofun,
        takeWhile_ne_nil_of_digitRun hdigits, isDigit_of_mem_takeWhile⟩, ?_, fun h => absurd h hzero⟩
      rw [if_neg hdigits, Nat.add_comm, List.take_succ_cons, ← takeWhile_eq_take_digitRun]
      rfl

/-- What is counted for a fraction is a point with the digits after it. -/
theorem exists_places_eq_take (cs : List Char) :
    ∃ places : Option (List Char), (∀ ds ∈ places, ∀ c ∈ ds, c.isDigit = true) ∧
      places.elim [] ('.' :: ·) = cs.take (fractionRun cs) ∧
      ∀ rest, cs = '.' :: rest → places = some (rest.takeWhile Char.isDigit) := by
  by_cases hpoint : ∃ rest, cs = '.' :: rest
  · obtain ⟨rest, rfl⟩ := hpoint
    refine ⟨some (rest.takeWhile Char.isDigit), ?_, ?_, ?_⟩
    · rintro _ ⟨⟩
      exact isDigit_of_mem_takeWhile
    · rw [fractionRun, Nat.add_comm, List.take_succ_cons, ← takeWhile_eq_take_digitRun]
      rfl
    · rintro _ ⟨⟩
      rfl
  · have hzero : fractionRun cs = 0 := fractionRun_eq_zero fun rest h => hpoint ⟨rest, h⟩
    exact ⟨none, nofun, by rw [hzero]; rfl, fun rest h => absurd ⟨rest, h⟩ hpoint⟩

/-- The length of the numeral at the start of a text, up to its exponent. -/
def mantissaRun (cs : List Char) : Nat := digitRun cs + fractionRun (cs.drop (digitRun cs))

theorem numeralRun_eq (cs : List Char) :
    numeralRun cs = mantissaRun cs + exponentRun (cs.drop (mantissaRun cs)) := rfl

theorem digitRun_le_length (cs : List Char) : digitRun cs ≤ cs.length :=
  (List.takeWhile_prefix _).length_le

theorem fractionRun_le_length (cs : List Char) : fractionRun cs ≤ cs.length := by
  unfold fractionRun
  split
  · rename_i rest
    have hle := digitRun_le_length rest
    rw [List.length_cons]
    omega
  · exact Nat.zero_le _

theorem exponentRun_le_length (cs : List Char) : exponentRun cs ≤ cs.length := by
  cases cs with
  | nil => exact Nat.le_refl _
  | cons mark rest =>
    cases rest with
    | nil => simp [exponentRun]
    | cons c ds =>
      have hrest := digitRun_le_length (c :: ds)
      have hds := digitRun_le_length ds
      simp only [exponentRun, List.length_cons] at hrest ⊢
      repeat' split
      all_goals omega

theorem numeralRun_le_length (cs : List Char) : numeralRun cs ≤ cs.length := by
  have hdigits := digitRun_le_length cs
  have hfraction := fractionRun_le_length (cs.drop (digitRun cs))
  have hexponent := exponentRun_le_length (cs.drop (mantissaRun cs))
  rw [List.length_drop] at hfraction hexponent
  rw [numeralRun_eq]
  unfold mantissaRun at *
  omega

/-- Where a numeral starts, what is counted is one, and it has an exponent when one is counted. -/
theorem exists_numeral_of_startsNumeral {c : Char} {rest : List Char}
    (h : startsNumeral c rest = true) :
    ∃ (n : Numeral) (after : List Char), c :: rest = n.text ++ after ∧
      n.text.length = numeralRun (c :: rest) ∧
      (exponentRun ((c :: rest).drop (mantissaRun (c :: rest))) = 0 → n.exponent = none) := by
  obtain ⟨places, hdigits, hplaces, hpoint⟩ :=
    exists_places_eq_take ((c :: rest).drop (digitRun (c :: rest)))
  obtain ⟨e, hexponent, hnone⟩ :=
    exists_exponent_eq_take ((c :: rest).drop (mantissaRun (c :: rest)))
  have hdigit : (c :: rest).takeWhile Char.isDigit ≠ [] ∨ ∃ ds ∈ places, ds ≠ [] := by
    cases hc : c.isDigit with
    | true => exact .inl (by rw [List.takeWhile_cons_of_pos hc]; exact List.cons_ne_nil _ _)
    | false =>
      have hzero : digitRun (c :: rest) = 0 := digitRun_eq_zero (by rintro _ ⟨⟩; exact hc)
      obtain ⟨rfl, hnext⟩ : c = '.' ∧ (rest.head?.map Char.isDigit).getD false = true := by
        simpa [startsNumeral, hc] using h
      cases rest with
      | nil => cases hnext
      | cons d ds =>
        have hnext : d.isDigit = true := hnext
        rw [hzero, List.drop_zero] at hpoint
        refine .inr ⟨_, hpoint _ rfl, ?_⟩
        rw [List.takeWhile_cons_of_pos hnext]
        exact List.cons_ne_nil _ _
  let n : Numeral := ⟨(c :: rest).takeWhile Char.isDigit, places, e, isDigit_of_mem_takeWhile,
    hdigits, hdigit⟩
  have hmantissa : n.mantissa = (c :: rest).take (mantissaRun (c :: rest)) := by
    rw [mantissaRun, List.take_add, ← takeWhile_eq_take_digitRun, ← hplaces]
    rfl
  have htext : n.text = (c :: rest).take (numeralRun (c :: rest)) := by
    rw [numeralRun_eq, List.take_add, ← hmantissa, ← hexponent]
    rfl
  refine ⟨n, (c :: rest).drop (numeralRun (c :: rest)), ?_, ?_, hnone⟩
  · rw [htext, List.take_append_drop]
  · rw [htext, List.length_take_of_le (numeralRun_le_length _)]

/-- A numeral that is the longest at its place is what is counted there. -/
theorem numeralRun_eq_length_of_longest {n : Numeral} {after : List Char}
    (longest : ∀ m : Numeral, m.text <+: n.text ++ after → m.text.length ≤ n.text.length) :
    numeralRun (n.text ++ after) = n.text.length := by
  refine Nat.le_antisymm ?_ (length_text_le_numeralRun n after)
  cases hcs : n.text ++ after with
  | nil => exact Nat.zero_le _
  | cons c rest =>
    obtain ⟨m, more, hsplit, hlength, -⟩ :=
      exists_numeral_of_startsNumeral (startsNumeral_of_text_append hcs)
    rw [← hlength]
    exact longest m (hcs ▸ hsplit ▸ List.prefix_append _ _)

end Lexeme

end Reckoner
