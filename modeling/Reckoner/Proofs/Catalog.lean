import Mathlib.Data.List.Infix
import Mathlib.Data.List.Nodup
import Mathlib.Data.List.Perm.Subperm
import Reckoner.Catalog
import Reckoner.Proofs.Text

/-!
# Suggestions

Where a query can stand in an entry of the catalog is stated apart from the search. The sort by tier is
stable, so all matching entries stand in one list, tier after tier and in catalog order within a tier;
the suggestions are the beginning of that list, however long. Typing more can only take entries away and
make matches worse. Lower case depends on what follows only for the capital sigma, and no query with a
sigma in it matches any entry.
-/

namespace Reckoner

namespace Text

theorem startsWith_iff {s start : String} :
    startsWith s start = true ↔ start.toList <+: s.toList := List.isPrefixOf_iff_prefix

theorem containsChars_iff {needle hay : List Char} : containsChars needle hay = true ↔ needle <:+: hay := by
  induction hay with
  | nil => rw [containsChars, List.isEmpty_iff, List.infix_nil]
  | cons c rest ih =>
    rw [containsChars, Bool.or_eq_true, ih, List.isPrefixOf_iff_prefix, List.infix_cons_iff]

theorem contains_iff {s part : String} : contains s part = true ↔ part.toList <:+: s.toList :=
  containsChars_iff

theorem trimChars_eq_nil_iff {cs : List Char} :
    trimChars cs = [] ↔ ∀ c ∈ cs, isBlank c = true := by
  constructor
  · intro h
    obtain ⟨before, after, hsplit, hbefore, hafter⟩ := exists_between_trimChars cs
    rw [h, List.nil_append] at hsplit
    rw [hsplit]
    exact List.forall_mem_append.mpr ⟨hbefore, hafter⟩
  · intro h
    rw [trimChars, List.dropWhile_eq_nil_iff.mpr h]
    rfl

/-! ## Lower case -/

theorem lowerChar_ne_nil (c : Char) : lowerChar c ≠ [] := by
  unfold lowerChar
  split <;> exact List.cons_ne_nil _ _

theorem lowerAfter_eq_nil_iff {before cs : List Char} : lowerAfter before cs = [] ↔ cs = [] := by
  cases cs with
  | nil => exact ⟨fun _ => rfl, fun _ => rfl⟩
  | cons c rest =>
    rw [lowerAfter, List.append_eq_nil_iff]
    constructor
    · rintro ⟨hhere, -⟩
      split at hhere
      · split at hhere <;> cases hhere
      · exact absurd hhere (lowerChar_ne_nil c)
    · exact fun h => absurd h (List.cons_ne_nil c rest)

/-- A capital sigma becomes one of the two small ones. -/
theorem mem_lowerAfter_of_sigma {before cs : List Char} (h : 'Σ' ∈ cs) :
    'σ' ∈ lowerAfter before cs ∨ 'ς' ∈ lowerAfter before cs := by
  induction cs generalizing before with
  | nil => cases h
  | cons c rest ih =>
    rw [lowerAfter]
    rcases List.mem_cons.mp h with rfl | hrest
    · split
      · split
        · exact .inr List.mem_cons_self
        · exact .inl List.mem_cons_self
      · contradiction
    · exact (ih hrest).imp (List.mem_append_right _) (List.mem_append_right _)

/-- Without a capital sigma every character has its lower case by itself. -/
theorem lowerAfter_eq_flatMap {before cs : List Char} (h : 'Σ' ∉ cs) :
    lowerAfter before cs = cs.flatMap lowerChar := by
  induction cs generalizing before with
  | nil => rfl
  | cons c rest ih =>
    obtain ⟨hne, hrest⟩ : 'Σ' ≠ c ∧ 'Σ' ∉ rest := by simpa using h
    rw [lowerAfter, if_neg (Ne.symm hne), ih hrest, List.flatMap_cons]

end Text

namespace Catalog

/-! ## Matching -/

/-- The query stands in the entry: at the start of its title in tier zero, anywhere in the title in
tier one, in the subtitle or in the inserted text in tier two. -/
inductive Matches (query : List Char) (entry : Suggestion) : Nat → Prop where
  | start (stands : query <+: (Text.lower entry.title).toList) : Matches query entry 0
  | title (stands : query <:+: (Text.lower entry.title).toList) : Matches query entry 1
  | subtitle (stands : query <:+: (Text.lower entry.subtitle).toList) : Matches query entry 2
  | insertion (stands : query <:+: (Text.lower entry.insertion).toList) : Matches query entry 2

/-- The best tier in which the entry matches the query. -/
structure Best (query : List Char) (entry : Suggestion) (tier : Nat) : Prop where
  matching : Matches query entry tier
  least : ∀ other, Matches query entry other → tier ≤ other

theorem Best.unique {query : List Char} {entry : Suggestion} {s t : Nat} (hs : Best query entry s)
    (ht : Best query entry t) : s = t :=
  Nat.le_antisymm (hs.least t ht.matching) (ht.least s hs.matching)

section Tier

variable {query : String} {entry : Suggestion} {tier : Nat}

theorem best_of_tier? (h : tier? query entry = some tier) : Best query.toList entry tier := by
  unfold tier? at h
  dsimp only at h
  split at h
  · rename_i hstart
    cases h
    refine ⟨.start (Text.startsWith_iff.mp hstart), ?_⟩
    intro other _
    exact Nat.zero_le other
  · rename_i hstart
    rw [Text.startsWith_iff] at hstart
    split at h
    · rename_i htitle
      cases h
      refine ⟨.title (Text.contains_iff.mp htitle), ?_⟩
      intro other hother
      cases hother with
      | start stands => exact absurd stands hstart
      | title stands => exact Nat.le_refl 1
      | subtitle stands => exact Nat.le_succ 1
      | insertion stands => exact Nat.le_succ 1
    · rename_i htitle
      rw [Text.contains_iff] at htitle
      split at h
      · rename_i hdescription
        cases h
        rw [Bool.or_eq_true, Text.contains_iff, Text.contains_iff] at hdescription
        refine ⟨hdescription.elim .subtitle .insertion, ?_⟩
        intro other hother
        cases hother with
        | start stands => exact absurd stands hstart
        | title stands => exact absurd stands htitle
        | subtitle stands => exact Nat.le_refl 2
        | insertion stands => exact Nat.le_refl 2
      · cases h

theorem not_matches_of_tier? (h : tier? query entry = none) (tier : Nat) :
    ¬ Matches query.toList entry tier := by
  unfold tier? at h
  dsimp only at h
  split at h
  · cases h
  · rename_i hstart
    split at h
    · cases h
    · rename_i htitle
      split at h
      · cases h
      · rename_i hdescription
        rw [Bool.or_eq_true, Text.contains_iff, Text.contains_iff, not_or] at hdescription
        rintro (stands | stands | stands | stands)
        · exact hstart (Text.startsWith_iff.mpr stands)
        · exact htitle (Text.contains_iff.mpr stands)
        · exact hdescription.1 stands
        · exact hdescription.2 stands

/-- The search finds the best tier. -/
theorem tier?_eq_some_iff : tier? query entry = some tier ↔ Best query.toList entry tier := by
  constructor
  · exact best_of_tier?
  · intro hbest
    cases h : tier? query entry with
    | none => exact absurd hbest.matching (not_matches_of_tier? h tier)
    | some found => rw [(best_of_tier? h).unique hbest]

theorem Matches.lt_three {query : List Char} {entry : Suggestion} {tier : Nat}
    (h : Matches query entry tier) : tier < 3 := by
  cases h <;> decide

theorem exists_best {query : List Char} {entry : Suggestion} {tier : Nat}
    (h : Matches query entry tier) : ∃ best, Best query entry best := by
  cases hfound : tier? (String.ofList query) entry with
  | none =>
    have hnone := not_matches_of_tier? hfound tier
    rw [String.toList_ofList] at hnone
    exact absurd h hnone
  | some best =>
    have hbest := best_of_tier? hfound
    rw [String.toList_ofList] at hbest
    exact ⟨best, hbest⟩

/-- The entries that match in a tier, in catalog order. -/
def inTier (query : String) (tier : Nat) : List Suggestion :=
  entries.filter fun entry => tier? query entry == some tier

theorem mem_inTier : entry ∈ inTier query tier ↔ entry ∈ entries ∧ Best query.toList entry tier := by
  rw [inTier, List.mem_filter, beq_iff_eq, tier?_eq_some_iff]

end Tier

/-! ## The list of all matching entries -/

theorem entries_nodup : entries.Nodup := by decide +kernel

/-- One entry stands before another in the catalog. -/
def StandsBefore (a b : Suggestion) : Prop := entries.idxOf a < entries.idxOf b

theorem pairwise_standsBefore : entries.Pairwise StandsBefore := by
  rw [List.pairwise_iff_getElem]
  intro i j hi hj hlt
  rwa [StandsBefore, entries_nodup.idxOf_getElem, entries_nodup.idxOf_getElem]

/-- One entry is offered before another: it matches better, or as well and it comes first in the
catalog. -/
def Precedes (query : List Char) (a b : Suggestion) : Prop :=
  ∃ s t, Best query a s ∧ Best query b t ∧ (s < t ∨ s = t ∧ StandsBefore a b)

/-- The entries that match a query, in the order in which they are offered. -/
def ranked (query : String) : List Suggestion := inTier query 0 ++ inTier query 1 ++ inTier query 2

section Ranked

variable {query : String} {a b : Suggestion}

theorem Precedes.ne (h : Precedes query.toList a b) : a ≠ b := by
  rintro rfl
  obtain ⟨s, t, hs, ht, hlt | ⟨-, hbefore⟩⟩ := h
  · exact Nat.ne_of_lt hlt (hs.unique ht)
  · exact Nat.lt_irrefl _ hbefore

theorem precedes_of_mem_inTier {s t : Nat} (ha : a ∈ inTier query s) (hb : b ∈ inTier query t)
    (h : s < t ∨ s = t ∧ StandsBefore a b) : Precedes query.toList a b :=
  ⟨s, t, (mem_inTier.mp ha).2, (mem_inTier.mp hb).2, h⟩

theorem inTier_pairwise (query : String) (tier : Nat) :
    (inTier query tier).Pairwise (Precedes query.toList) := by
  refine (pairwise_standsBefore.filter fun entry => tier? query entry == some tier).imp_of_mem ?_
  intro a b ha hb hbefore
  exact precedes_of_mem_inTier ha hb (.inr ⟨rfl, hbefore⟩)

theorem ranked_pairwise (query : String) : (ranked query).Pairwise (Precedes query.toList) := by
  refine List.pairwise_append.mpr ⟨List.pairwise_append.mpr ⟨inTier_pairwise query 0,
    inTier_pairwise query 1, ?_⟩, inTier_pairwise query 2, ?_⟩
  · intro a ha b hb
    exact precedes_of_mem_inTier ha hb (.inl Nat.zero_lt_one)
  · intro a ha b hb
    rcases List.mem_append.mp ha with ha | ha
    · exact precedes_of_mem_inTier ha hb (.inl Nat.zero_lt_two)
    · exact precedes_of_mem_inTier ha hb (.inl Nat.one_lt_two)

theorem ranked_nodup (query : String) : (ranked query).Nodup := by
  apply (ranked_pairwise query).imp
  intro a b h
  exact h.ne

theorem mem_ranked_iff {entry : Suggestion} :
    entry ∈ ranked query ↔ entry ∈ entries ∧ ∃ tier, Matches query.toList entry tier := by
  rw [ranked, List.mem_append, List.mem_append, mem_inTier, mem_inTier, mem_inTier]
  constructor
  · rintro ((⟨hentry, hbest⟩ | ⟨hentry, hbest⟩) | ⟨hentry, hbest⟩) <;>
      exact ⟨hentry, _, hbest.matching⟩
  · rintro ⟨hentry, tier, hmatches⟩
    obtain ⟨best, hbest⟩ := exists_best hmatches
    have hlt := hbest.matching.lt_three
    obtain rfl | rfl | rfl : best = 0 ∨ best = 1 ∨ best = 2 := by omega
    · exact .inl (.inl ⟨hentry, hbest⟩)
    · exact .inl (.inr ⟨hentry, hbest⟩)
    · exact .inr ⟨hentry, hbest⟩

end Ranked

/-! ## Sorting by tier -/

theorem noWorse_iff {a b : Nat × Suggestion} : noWorse a b = true ↔ a.1 ≤ b.1 := decide_eq_true_iff

theorem noWorse_trans (a b c : Nat × Suggestion) (hab : noWorse a b = true)
    (hbc : noWorse b c = true) : noWorse a c = true :=
  noWorse_iff.mpr ((noWorse_iff.mp hab).trans (noWorse_iff.mp hbc))

theorem noWorse_total (a b : Nat × Suggestion) : (noWorse a b || noWorse b a) = true := by
  rw [Bool.or_eq_true, noWorse_iff, noWorse_iff]
  exact Nat.le_total a.1 b.1

/-- The matches of one tier. -/
def atTier (tier : Nat) (found : List (Nat × Suggestion)) : List (Nat × Suggestion) :=
  found.filter fun x => x.1 == tier

theorem atTier_cons (tier : Nat) (x : Nat × Suggestion) (found : List (Nat × Suggestion)) :
    atTier tier (x :: found) =
      if x.1 = tier then x :: atTier tier found else atTier tier found := by
  simp only [atTier, List.filter_cons, beq_iff_eq]

theorem atTier_eq_nil {tier : Nat} {found : List (Nat × Suggestion)}
    (h : ∀ x ∈ found, tier < x.1) : atTier tier found = [] := by
  rw [atTier, List.filter_eq_nil_iff]
  intro x hx
  rw [beq_iff_eq]
  exact (h x hx).ne'

/-- Sorting leaves the matches of one tier in the order they had. -/
theorem atTier_mergeSort (tier : Nat) (found : List (Nat × Suggestion)) :
    atTier tier (found.mergeSort noWorse) = atTier tier found := by
  have hsame : (atTier tier found).Pairwise fun a b => noWorse a b = true := by
    rw [List.pairwise_iff_forall_sublist]
    intro a b hab
    have ha := List.mem_filter.mp (hab.subset List.mem_cons_self)
    have hb := List.mem_filter.mp (hab.subset (List.mem_cons_of_mem a List.mem_cons_self))
    rw [noWorse_iff, eq_of_beq ha.2, eq_of_beq hb.2]
  have hstable : (atTier tier found).Sublist (found.mergeSort noWorse) :=
    List.sublist_mergeSort noWorse_trans noWorse_total hsame List.filter_sublist
  have hkept : (atTier tier found).Sublist (atTier tier (found.mergeSort noWorse)) := by
    have hfiltered := hstable.filter fun x => x.1 == tier
    rwa [atTier, List.filter_filter, funext fun _ => Bool.and_self _] at hfiltered
  have hcount := ((List.mergeSort_perm found noWorse).filter fun x => x.1 == tier).length_eq
  exact (hkept.eq_of_length hcount.symm).symm

/-- Matches that stand better tiers first are those of each tier, one tier after the other. -/
theorem eq_tiers_of_pairwise {found : List (Nat × Suggestion)}
    (hsorted : found.Pairwise fun a b => a.1 ≤ b.1) (hlt : ∀ x ∈ found, x.1 < 3) :
    found = atTier 0 found ++ atTier 1 found ++ atTier 2 found := by
  induction hsorted with
  | nil => rfl
  | @cons first rest hfirst _ ih =>
    have hrest := ih fun x hx => hlt x (List.mem_cons_of_mem first hx)
    -- Tiers better than that of the first match are empty from here on.
    have hbetter : ∀ tier, tier < first.1 → atTier tier rest = [] := by
      intro tier htier
      exact atTier_eq_nil fun x hx => htier.trans_le (hfirst x hx)
    have htier := hlt first List.mem_cons_self
    obtain htier | htier | htier : first.1 = 0 ∨ first.1 = 1 ∨ first.1 = 2 := by omega
    · simpa [atTier_cons, htier] using hrest
    · simpa [atTier_cons, htier, hbetter] using hrest
    · simpa [atTier_cons, htier, hbetter] using hrest

theorem byTier_pairwise (query : String) : (byTier query).Pairwise fun a b => a.1 ≤ b.1 :=
  (List.pairwise_mergeSort noWorse_trans noWorse_total (matching query)).imp noWorse_iff.mp

theorem map_atTier_matching (query : String) (tier : Nat) :
    (atTier tier (matching query)).map Prod.snd = inTier query tier := by
  unfold matching inTier
  induction entries with
  | nil => rfl
  | cons entry rest ih =>
    rw [List.filterMap_cons, List.filter_cons, ← ih]
    cases h : tier? query entry with
    | none => rfl
    | some found =>
      by_cases hfound : found = tier
      · simp [atTier_cons, hfound]
      · simp [atTier_cons, hfound]

/-- The sorted matches are the entries of each tier, one tier after the other. -/
theorem map_byTier (query : String) : (byTier query).map Prod.snd = ranked query := by
  have hlt : ∀ x ∈ byTier query, x.1 < 3 := by
    intro x hx
    rw [byTier, List.mem_mergeSort, matching, List.mem_filterMap] at hx
    obtain ⟨entry, -, hentry⟩ := hx
    obtain ⟨tier, htier, rfl⟩ := Option.map_eq_some_iff.mp hentry
    exact (best_of_tier? htier).matching.lt_three
  rw [eq_tiers_of_pairwise (byTier_pairwise query) hlt, ranked, byTier, atTier_mergeSort,
    atTier_mergeSort, atTier_mergeSort, List.map_append, List.map_append, map_atTier_matching,
    map_atTier_matching, map_atTier_matching]

/-! ## What is suggested -/

/-- There are only blanks in the text. -/
def IsBlank (text : String) : Prop := ∀ c ∈ text.toList, Text.isBlank c = true

theorem toList_query (input : String) :
    (query input).toList = Text.lowerAfter [] (Text.trimChars input.toList) := by
  rw [query, Text.lower, String.toList_ofList, Text.trim, String.toList_ofList]

theorem query_isEmpty_iff {input : String} : (query input).isEmpty = true ↔ IsBlank input := by
  rw [String.isEmpty_iff, ← String.toList_eq_nil_iff, toList_query, Text.lowerAfter_eq_nil_iff,
    Text.trimChars_eq_nil_iff, IsBlank]

theorem suggest_of_isBlank {input : String} (h : IsBlank input) (limit : Nat) :
    suggest input limit = [] := by
  unfold suggest
  dsimp only
  rw [if_pos (query_isEmpty_iff.mpr h)]

theorem suggest_of_not_isBlank {input : String} (h : ¬ IsBlank input) (limit : Nat) :
    suggest input limit = (ranked (query input)).take limit := by
  unfold suggest
  dsimp only
  rw [if_neg fun hempty => h (query_isEmpty_iff.mp hempty), List.map_take, map_byTier]

/-- The list that suggestions are taken from: the catalog entries in which the query of the input
stands, each once, in the order in which they are offered. Of a blank input there are none. -/
structure Ranks (input : String) (suggestions : List Suggestion) : Prop where
  nodup : suggestions.Nodup
  mem_iff : ∀ entry, entry ∈ suggestions ↔
    ¬ IsBlank input ∧ entry ∈ entries ∧ ∃ tier, Matches (query input).toList entry tier
  ordered : suggestions.Pairwise (Precedes (query input).toList)

theorem exists_ranks (input : String) :
    ∃ suggestions, Ranks input suggestions ∧
      ∀ limit, suggest input limit = suggestions.take limit := by
  by_cases hblank : IsBlank input
  · refine ⟨[], ⟨List.nodup_nil, ?_, List.Pairwise.nil⟩, ?_⟩
    · intro entry
      constructor
      · intro hentry
        cases hentry
      · rintro ⟨hletter, -⟩
        exact absurd hblank hletter
    · intro limit
      rw [suggest_of_isBlank hblank, List.take_nil]
  · refine ⟨ranked (query input), ⟨ranked_nodup _, ?_, ranked_pairwise _⟩,
      suggest_of_not_isBlank hblank⟩
    intro entry
    rw [mem_ranked_iff, and_iff_right hblank]

/-- The suggestions for an input are the beginning of one list of all matching entries, so those for a
smaller limit are the beginning of those for a larger one. A blank input gives nothing. -/
theorem suggest_takes_ranked (input : String) :
    (∃ suggestions, Ranks input suggestions ∧
      ∀ limit, suggest input limit = suggestions.take (min limit suggestions.length)) ∧
    (∀ few many, few ≤ many → suggest input few <+: suggest input many) ∧
    (IsBlank input → ∀ limit, suggest input limit = []) := by
  obtain ⟨suggestions, hranks, htake⟩ := exists_ranks input
  refine ⟨⟨suggestions, hranks, ?_⟩, ?_, suggest_of_isBlank⟩
  · intro limit
    rw [htake, List.take_eq_take_min]
  · intro few many hle
    rw [htake, htake]
    exact List.take_prefix_take_left hle

theorem suggest_takes_ranked_root :
    2 ≤ 4 ∧ suggest "\tRoot " 2 <+: suggest "\tRoot " 4 ∧ IsBlank " \t" ∧ suggest " \t" 4 = [] := by
  have hblank : IsBlank " \t" := query_isEmpty_iff.mp (by decide +kernel)
  exact ⟨by decide, (suggest_takes_ranked "\tRoot ").2.1 2 4 (by decide), hblank,
    (suggest_takes_ranked " \t").2.2 hblank 4⟩

/-! ## Typing more -/

theorem Matches.of_prefix {query longer : List Char} {entry : Suggestion} {tier : Nat}
    (hbeginning : query <+: longer) (h : Matches longer entry tier) : Matches query entry tier := by
  cases h with
  | start stands => exact .start (hbeginning.trans stands)
  | title stands => exact .title (hbeginning.isInfix.trans stands)
  | subtitle stands => exact .subtitle (hbeginning.isInfix.trans stands)
  | insertion stands => exact .insertion (hbeginning.isInfix.trans stands)

theorem Matches.exists_text {query : List Char} {entry : Suggestion} {tier : Nat}
    (h : Matches query entry tier) :
    ∃ text ∈ [entry.title, entry.subtitle, entry.insertion], query <:+: (Text.lower text).toList := by
  cases h with
  | start stands => exact ⟨entry.title, by simp, stands.isInfix⟩
  | title stands => exact ⟨entry.title, by simp, stands⟩
  | subtitle stands => exact ⟨entry.subtitle, by simp, stands⟩
  | insertion stands => exact ⟨entry.insertion, by simp, stands⟩

/-- No entry has a sigma in its lower case. -/
theorem sigma_not_mem_of_mem_entries {entry : Suggestion} (hentry : entry ∈ entries) {text : String}
    (htext : text ∈ [entry.title, entry.subtitle, entry.insertion]) :
    'σ' ∉ (Text.lower text).toList ∧ 'ς' ∉ (Text.lower text).toList := by
  have hall : entries.all (fun e => [e.title, e.subtitle, e.insertion].all fun text =>
      (Text.lowerAfter [] text.toList).all fun c => c != 'σ' && c != 'ς') = true := by
    decide +kernel
  have hletters := List.all_eq_true.mp (List.all_eq_true.mp hall entry hentry) text htext
  rw [Text.lower, String.toList_ofList]
  constructor <;> intro hsigma <;> cases List.all_eq_true.mp hletters _ hsigma

theorem sigma_not_mem_of_matches {query : List Char} {entry : Suggestion} {tier : Nat}
    (hentry : entry ∈ entries) (h : Matches query entry tier) : 'σ' ∉ query ∧ 'ς' ∉ query := by
  obtain ⟨text, htext, hstands⟩ := h.exists_text
  obtain ⟨hsmall, hfinal⟩ := sigma_not_mem_of_mem_entries hentry htext
  constructor
  · intro h
    exact hsmall (hstands.subset h)
  · intro h
    exact hfinal (hstands.subset h)

/-- Where no sigma comes out, the query of a text is the beginning of that of a longer text. -/
theorem query_prefix_append {typed more : String} (htyped : ¬ IsBlank typed)
    (hsigma : 'σ' ∉ (query (typed ++ more)).toList ∧ 'ς' ∉ (query (typed ++ more)).toList) :
    (query typed).toList <+: (query (typed ++ more)).toList := by
  rw [toList_query] at hsigma ⊢
  rw [toList_query]
  have hcapital : 'Σ' ∉ Text.trimChars (typed ++ more).toList := by
    intro h
    rcases Text.mem_lowerAfter_of_sigma h with hsmall | hfinal
    · exact hsigma.1 hsmall
    · exact hsigma.2 hfinal
  have hletter : ∃ c ∈ typed.toList, Text.isBlank c = false := by
    simpa [IsBlank] using htyped
  have hbeginning := Text.trimChars_prefix_append hletter more.toList
  rw [← String.toList_append] at hbeginning
  have hcapital' : 'Σ' ∉ Text.trimChars typed.toList := fun h => hcapital (hbeginning.subset h)
  rw [Text.lowerAfter_eq_flatMap hcapital, Text.lowerAfter_eq_flatMap hcapital']
  obtain ⟨rest, hrest⟩ := hbeginning
  rw [← hrest, List.flatMap_append]
  exact List.prefix_append _ _

theorem Ranks.length_le {input : String} {suggestions : List Suggestion}
    (h : Ranks input suggestions) : suggestions.length ≤ entries.length := by
  have hsubset : suggestions ⊆ entries := by
    intro entry hentry
    exact ((h.mem_iff entry).mp hentry).2.1
  exact (List.subperm_of_subset h.nodup hsubset).length_le

section Membership

variable {input : String} {limit : Nat} {entry : Suggestion}

theorem matches_of_mem_suggest (h : entry ∈ suggest input limit) :
    ¬ IsBlank input ∧ entry ∈ entries ∧ ∃ tier, Matches (query input).toList entry tier := by
  obtain ⟨suggestions, hranks, htake⟩ := exists_ranks input
  rw [htake] at h
  exact (hranks.mem_iff entry).mp (List.mem_of_mem_take h)

/-- With room for the whole catalog every matching entry is suggested. -/
theorem mem_suggest_iff (hlimit : entries.length ≤ limit) :
    entry ∈ suggest input limit ↔
      ¬ IsBlank input ∧ entry ∈ entries ∧ ∃ tier, Matches (query input).toList entry tier := by
  obtain ⟨suggestions, hranks, htake⟩ := exists_ranks input
  rw [htake, List.take_of_length_le (hranks.length_le.trans hlimit)]
  exact hranks.mem_iff entry

end Membership

/-- What is suggested for a longer text is suggested for the shorter one, if that is not blank and the
limit leaves room for the catalog, and it matches the shorter one no worse. -/
theorem suggest_append {typed more : String} (htyped : ¬ IsBlank typed) {few limit : Nat}
    (hlimit : entries.length ≤ limit) {entry : Suggestion}
    (hentry : entry ∈ suggest (typed ++ more) few) :
    entry ∈ suggest typed limit ∧
      ∃ s t, Best (query typed).toList entry s ∧ Best (query (typed ++ more)).toList entry t ∧
        s ≤ t := by
  obtain ⟨-, hcatalog, tier, hmatches⟩ := matches_of_mem_suggest hentry
  obtain ⟨t, ht⟩ := exists_best hmatches
  have hshorter := ht.matching.of_prefix
    (query_prefix_append htyped (sigma_not_mem_of_matches hcatalog ht.matching))
  obtain ⟨s, hs⟩ := exists_best hshorter
  exact ⟨(mem_suggest_iff hlimit).mpr ⟨htyped, hcatalog, t, hshorter⟩,
    s, t, hs, ht, hs.least t hshorter⟩

/-- The cube root matches one letter in its title, and the whole word only in its description. -/
theorem suggest_append_root :
    ¬ IsBlank " R" ∧ entries.length ≤ 47 ∧
    ⟨"cbrt", "Cube root", "Math", "cbrt()"⟩ ∈ suggest (" R" ++ "oot ") 47 ∧
    ⟨"cbrt", "Cube root", "Math", "cbrt()"⟩ ∈ suggest " R" 47 ∧
    ∃ s t, Best (query " R").toList ⟨"cbrt", "Cube root", "Math", "cbrt()"⟩ s ∧
      Best (query (" R" ++ "oot ")).toList ⟨"cbrt", "Cube root", "Math", "cbrt()"⟩ t ∧ s ≤ t := by
  have htyped : ¬ IsBlank " R" := by
    rw [← query_isEmpty_iff]
    decide +kernel
  have hlonger : ¬ IsBlank (" R" ++ "oot ") := by
    rw [← query_isEmpty_iff]
    decide +kernel
  have hlimit : entries.length ≤ 47 := by decide
  have hentry : ⟨"cbrt", "Cube root", "Math", "cbrt()"⟩ ∈ suggest (" R" ++ "oot ") 47 := by
    refine (mem_suggest_iff hlimit).mpr ⟨hlonger, by decide +kernel, 2, .subtitle ?_⟩
    decide +kernel
  exact ⟨htyped, hlimit, hentry, suggest_append htyped hlimit hentry⟩

end Catalog

end Reckoner
