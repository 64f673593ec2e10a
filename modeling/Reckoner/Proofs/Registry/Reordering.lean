import Reckoner.Failure.Wording
import Reckoner.Library
import Reckoner.Proofs.Registry

/-!
# Reordered registries

The order in which functions are registered or stored never shows. Names that look like an unknown
one are ranked by their similarity and then by the alphabet, which leaves no two of them in a draw; so
their list is the same from any order of the table, and the first five of it are the best five.
-/

namespace Reckoner

/-- The names that look like an unknown function are its advice. -/
theorem Cause.suggestion_undefinedFunction (name : String) (similar : List String) :
    (Cause.undefinedFunction name similar).report.suggestion =
      if similar.isEmpty then none else some ("Similar: " ++ ", ".intercalate similar) := by
  unfold report
  dsimp only
  split <;> rfl

namespace Registry

/-- The first name looks more like the one asked for, or as much and comes first in the alphabet. -/
def RanksBefore (query a b : String) : Prop :=
  similarity query b < similarity query a ∨ similarity query b = similarity query a ∧ a < b

/-- The order of names that stand with their similarity. -/
def ranks (a b : String × Nat) : Bool := b.2 < a.2 || (b.2 == a.2 && decide (a.1 ≤ b.1))

theorem ranks_iff {a b : String × Nat} :
    ranks a b = true ↔ b.2 < a.2 ∨ b.2 = a.2 ∧ a.1 ≤ b.1 := by
  simp [ranks]

theorem ranks_trans (a b c : String × Nat) (hab : ranks a b = true) (hbc : ranks b c = true) :
    ranks a c = true := by
  rw [ranks_iff] at hab hbc ⊢
  obtain hlt | ⟨heq, hle⟩ := hab <;> obtain hlt' | ⟨heq', hle'⟩ := hbc
  · exact .inl (Nat.lt_trans hlt' hlt)
  · exact .inl (heq' ▸ hlt)
  · exact .inl (heq ▸ hlt')
  · exact .inr ⟨heq'.trans heq, String.le_trans hle hle'⟩

theorem ranks_total (a b : String × Nat) : (ranks a b || ranks b a) = true := by
  rw [Bool.or_eq_true, ranks_iff, ranks_iff]
  obtain hlt | heq | hgt := Nat.lt_trichotomy a.2 b.2
  · exact .inr (.inl hlt)
  · exact (String.le_total a.1 b.1).imp (fun hle => .inr ⟨heq.symm, hle⟩) fun hle => .inr ⟨heq, hle⟩
  · exact .inl (.inl hgt)

variable {query a b : String}

theorem RanksBefore.asymm (h : RanksBefore query a b) : ¬ RanksBefore query b a := by
  rintro (hlt | ⟨heq, hlt⟩) <;> obtain hlt' | ⟨heq', hlt'⟩ := h
  · exact Nat.lt_asymm hlt hlt'
  · exact Nat.ne_of_lt hlt heq'.symm
  · exact Nat.ne_of_lt hlt' heq.symm
  · exact String.lt_irrefl _ (String.lt_trans hlt hlt')

theorem RanksBefore.similarity_le (h : RanksBefore query a b) :
    similarity query b ≤ similarity query a := by
  obtain hlt | ⟨heq, -⟩ := h
  · exact Nat.le_of_lt hlt
  · exact Nat.le_of_eq heq

variable {α : Type} {r s : Registry α}

/-! ## Names that look alike -/

theorem similarNames_eq (r : Registry α) (name : String) :
    r.similarNames name =
      (((r.functions.map fun entry => (entry.1, similarity (Text.lower name) entry.1)).filter
        fun entry => 10 < entry.2).mergeSort ranks).map Prod.fst := rfl

theorem similarNames_perm (r : Registry α) (name : String) :
    (r.similarNames name).Perm ((r.functions.map Prod.fst).filter
      fun key => 10 < similarity (Text.lower name) key) := by
  rw [similarNames_eq]
  refine ((List.mergeSort_perm _ ranks).map Prod.fst).trans (.of_eq ?_)
  rw [List.filter_map, List.filter_map, List.map_map]
  rfl

theorem mem_similarNames_iff {name key : String} :
    key ∈ r.similarNames name ↔
      key ∈ r.functions.map Prod.fst ∧ 10 < similarity (Text.lower name) key := by
  rw [(r.similarNames_perm name).mem_iff, List.mem_filter, decide_eq_true_eq]

/-- Distinct names never draw, so each ranks strictly before the next. -/
theorem similarNames_ranked (hnodup : (r.functions.map Prod.fst).Nodup) (name : String) :
    (r.similarNames name).Pairwise (RanksBefore (Text.lower name)) := by
  have hdistinct : (r.similarNames name).Nodup :=
    (r.similarNames_perm name).nodup_iff.mpr (hnodup.filter _)
  rw [similarNames_eq] at hdistinct ⊢
  rw [List.Nodup, List.pairwise_map] at hdistinct
  have hsorted := List.pairwise_mergeSort ranks_trans ranks_total
    ((r.functions.map fun entry => (entry.1, similarity (Text.lower name) entry.1)).filter
      fun entry => 10 < entry.2)
  have hscore : ∀ entry ∈ ((r.functions.map fun entry =>
      (entry.1, similarity (Text.lower name) entry.1)).filter fun entry => 10 < entry.2).mergeSort ranks,
      entry.2 = similarity (Text.lower name) entry.1 := by
    intro entry hentry
    rw [List.mem_mergeSort, List.mem_filter, List.mem_map] at hentry
    obtain ⟨⟨function, -, rfl⟩, -⟩ := hentry
    rfl
  rw [List.pairwise_map]
  refine (hsorted.and hdistinct).imp_of_mem ?_
  rintro x y hx hy ⟨hranks, hne⟩
  rw [ranks_iff, hscore x hx, hscore y hy] at hranks
  exact hranks.imp_right fun ⟨heq, hle⟩ => ⟨heq, Std.lt_of_le_of_ne hle hne⟩

/-- The list of suggestions for a name among some registered names: the best of those that come close
enough, no more than five. -/
structure Suggests (registered : String → Prop) (query : String) (suggested : List String) : Prop where
  length_le : suggested.length ≤ 5
  known : ∀ key ∈ suggested, registered key
  close : ∀ key ∈ suggested, 10 < similarity query key
  ranked : suggested.Pairwise (RanksBefore query)
  best : ∀ key, registered key → (∃ other ∈ suggested, RanksBefore query key other) → key ∈ suggested
  full : ∀ key, registered key → 10 < similarity query key → key ∉ suggested → suggested.length = 5

/-- What is left out comes after everything that is kept. -/
theorem ranked_of_not_mem_take (hnodup : (r.functions.map Prod.fst).Nodup) {name key : String}
    (hkey : key ∈ r.similarNames name) (hnot : key ∉ (r.similarNames name).take 5) :
    5 < (r.similarNames name).length ∧
      ∀ other ∈ (r.similarNames name).take 5, RanksBefore (Text.lower name) other key := by
  have hranked := r.similarNames_ranked hnodup name
  rw [← List.take_append_drop 5 (r.similarNames name), List.mem_append] at hkey
  have hdropped := hkey.resolve_left hnot
  constructor
  · have hlong := List.length_pos_of_mem hdropped
    rw [List.length_drop] at hlong
    exact Nat.lt_of_sub_pos hlong
  · rw [← List.take_append_drop 5 (r.similarNames name), List.pairwise_append] at hranked
    exact fun other hother => hranked.2.2 other hother key hdropped

theorem suggests_take_similarNames (hnodup : (r.functions.map Prod.fst).Nodup) (name : String) :
    Suggests (· ∈ r.functions.map Prod.fst) (Text.lower name) ((r.similarNames name).take 5) := by
  have hmem : ∀ key ∈ (r.similarNames name).take 5, key ∈ r.functions.map Prod.fst ∧
      10 < similarity (Text.lower name) key := fun key hkey =>
    mem_similarNames_iff.mp (List.mem_of_mem_take hkey)
  refine ⟨List.length_take_le 5 _, fun key hkey => (hmem key hkey).1, fun key hkey => (hmem key hkey).2,
    (r.similarNames_ranked hnodup name).take, ?_, ?_⟩
  · rintro key hkey ⟨other, hother, hbefore⟩
    have hclose : 10 < similarity (Text.lower name) key :=
      Nat.lt_of_lt_of_le (hmem other hother).2 hbefore.similarity_le
    refine Decidable.byContradiction fun hnot => ?_
    have hlate := ranked_of_not_mem_take hnodup (mem_similarNames_iff.mpr ⟨hkey, hclose⟩) hnot
    exact hbefore.asymm (hlate.2 other hother)
  · intro key hkey hclose hnot
    have hlate := ranked_of_not_mem_take hnodup (mem_similarNames_iff.mpr ⟨hkey, hclose⟩) hnot
    exact List.length_take_of_le (Nat.le_of_lt hlate.1)

/-! ## The same functions in another order -/

theorem function?_eq_of_perm (h : r.functions.Perm s.functions)
    (hnodup : (r.functions.map Prod.fst).Nodup) (name : String) :
    r.function? name = s.function? name := by
  have hnodup' : (s.functions.map Prod.fst).Nodup := (h.map Prod.fst).nodup_iff.mp hnodup
  apply Option.ext
  intro f
  rw [function?, function?, lookup_eq_some_iff_of_nodup hnodup, lookup_eq_some_iff_of_nodup hnodup',
    h.mem_iff]

theorem functionNames_eq_of_perm (h : r.functions.Perm s.functions) (category : Option String) :
    r.functionNames category = s.functionNames category := by
  rw [functionNames_eq, functionNames_eq]
  exact mergeSort_eq_of_perm ((h.filter _).map _)

theorem undefinedFunction_eq_of_perm (h : r.functions.Perm s.functions)
    (hnodup : (r.functions.map Prod.fst).Nodup) (name : String) :
    r.undefinedFunction name = s.undefinedFunction name := by
  have hnodup' : (s.functions.map Prod.fst).Nodup := (h.map Prod.fst).nodup_iff.mp hnodup
  have hperm : (r.similarNames name).Perm (s.similarNames name) :=
    (r.similarNames_perm name).trans
      (((h.map Prod.fst).filter _).trans (s.similarNames_perm name).symm)
  have heq : r.similarNames name = s.similarNames name :=
    List.Perm.eq_of_pairwise (fun _ _ _ _ hab hba => absurd hba hab.asymm)
      (r.similarNames_ranked hnodup name) (s.similarNames_ranked hnodup' name) hperm
  rw [undefinedFunction, undefinedFunction, heq]

theorem call_eq_of_perm (h : r.functions.Perm s.functions)
    (hnodup : (r.functions.map Prod.fst).Nodup) (name : String) (args : List α) :
    r.call name args = s.call name args := by
  unfold call
  rw [function?_eq_of_perm h hnodup, undefinedFunction_eq_of_perm h hnodup]

open Registration

section

variable {rs : List (Registration α)} (hr : r.functions.Perm (ofRegistrations rs).functions)

include hr

theorem nodup_of_perm_ofRegistrations : (r.functions.map Prod.fst).Nodup :=
  (hr.map Prod.fst).nodup_iff.mpr (records_ofRegistrations rs).functions.nodup

/-- Of functions with distinct names all are there. -/
theorem mem_functions_of_distinct
    (hdistinct : ∀ f ∈ functionsOf rs, ∀ g ∈ functionsOf rs, f.key = g.key → f = g)
    {entry : String × Function α} :
    entry ∈ r.functions ↔ ∃ f ∈ functionsOf rs, f.entry = entry := by
  rw [hr.mem_iff, (records_ofRegistrations rs).mem_functions_iff]
  simp only [lastOf_iff_mem hdistinct]

theorem mem_keys_of_distinct
    (hdistinct : ∀ f ∈ functionsOf rs, ∀ g ∈ functionsOf rs, f.key = g.key → f = g) {key : String} :
    key ∈ r.functions.map Prod.fst ↔ ∃ f ∈ functionsOf rs, f.key = key := by
  rw [List.mem_map]
  constructor
  · rintro ⟨entry, hentry, rfl⟩
    obtain ⟨f, hf, rfl⟩ := (mem_functions_of_distinct hr hdistinct).mp hentry
    exact ⟨f, hf, rfl⟩
  · rintro ⟨f, hf, rfl⟩
    exact ⟨f.entry, (mem_functions_of_distinct hr hdistinct).mpr ⟨f, hf, rfl⟩, rfl⟩

end

/-- Registries of the same functions, all of different names, give the same answers, in whatever order
the functions were registered and are kept, and whatever constants there are. The error for an unknown
name suggests the registered names most like it. -/
theorem answers_of_same_functions {rs rs' : List (Registration Float)} {r r' : Registry Float}
    (hsame : ∀ f, f ∈ functionsOf rs ↔ f ∈ functionsOf rs')
    (hdistinct : ∀ f ∈ functionsOf rs, ∀ g ∈ functionsOf rs, f.key = g.key → f = g)
    (hr : r.functions.Perm (ofRegistrations rs).functions)
    (hr' : r'.functions.Perm (ofRegistrations rs').functions) :
    (∀ name, r.function? name = r'.function? name) ∧
    (∀ name args, r.call name args = r'.call name args) ∧
    (∀ category, r.functionNames category = r'.functionNames category) ∧
    (∀ name, r.undefinedFunction name = r'.undefinedFunction name) ∧
    ∀ name, ∃ suggested, r.undefinedFunction name = .undefinedFunction name suggested ∧
      (r.undefinedFunction name).report.suggestion =
        (if suggested.isEmpty then none else some ("Similar: " ++ ", ".intercalate suggested)) ∧
      Suggests (fun key => ∃ f ∈ functionsOf rs, f.key = key) (Text.lower name) suggested := by
  have hnodup := nodup_of_perm_ofRegistrations hr
  have hdistinct' : ∀ f ∈ functionsOf rs', ∀ g ∈ functionsOf rs', f.key = g.key → f = g :=
    fun f hf g hg => hdistinct f ((hsame f).mpr hf) g ((hsame g).mpr hg)
  have hentries : ∀ {s : Registry Float}, (s.functions.map Prod.fst).Nodup → s.functions.Nodup :=
    fun hkeys => List.Pairwise.of_map Prod.fst (fun _ _ hne heq => hne (congrArg Prod.fst heq)) hkeys
  have hperm : r.functions.Perm r'.functions := by
    refine (List.perm_ext_iff_of_nodup (hentries hnodup)
      (hentries (nodup_of_perm_ofRegistrations hr'))).mpr fun entry => ?_
    rw [mem_functions_of_distinct hr hdistinct, mem_functions_of_distinct hr' hdistinct']
    simp only [hsame]
  refine ⟨function?_eq_of_perm hperm hnodup, call_eq_of_perm hperm hnodup,
    functionNames_eq_of_perm hperm, undefinedFunction_eq_of_perm hperm hnodup, fun name => ?_⟩
  refine ⟨_, rfl, Cause.suggestion_undefinedFunction name _, ?_⟩
  have hsuggests := suggests_take_similarNames hnodup name
  simp only [mem_keys_of_distinct hr hdistinct] at hsuggests
  exact hsuggests

/-- The registry with its table kept in the opposite order. -/
def reversed (r : Registry α) : Registry α := { r with functions := r.functions.reverse }

theorem answers_of_same_functions_trigonometry :
    (∀ f, f ∈ functionsOf (Library.trigonometry.map .function) ↔
      f ∈ functionsOf (Library.trigonometry.reverse.map .function)) ∧
    (∀ f ∈ functionsOf (Library.trigonometry.map .function),
      ∀ g ∈ functionsOf (Library.trigonometry.map .function), f.key = g.key → f = g) ∧
    (ofRegistrations (Library.trigonometry.map .function)).reversed.functions.Perm
      (ofRegistrations (Library.trigonometry.map .function)).functions ∧
    (∀ name, (ofRegistrations (Library.trigonometry.map .function)).reversed.undefinedFunction name =
      (ofRegistrations (Library.trigonometry.reverse.map .function)).undefinedFunction name) ∧
    ∃ suggested,
      (ofRegistrations (Library.trigonometry.map .function)).reversed.undefinedFunction "Asine" =
        .undefinedFunction "Asine" suggested ∧
      Suggests (fun key => ∃ f ∈ functionsOf (Library.trigonometry.map .function), f.key = key)
        (Text.lower "Asine") suggested := by
  have hsame : ∀ f, f ∈ functionsOf (Library.trigonometry.map .function) ↔
      f ∈ functionsOf (Library.trigonometry.reverse.map .function) := fun f =>
    show f ∈ Library.trigonometry ↔ f ∈ Library.trigonometry.reverse from List.mem_reverse.symm
  have hnodup : ((functionsOf (Library.trigonometry.map .function)).map Function.key).Nodup := by
    decide +kernel
  have hdistinct : ∀ f ∈ functionsOf (Library.trigonometry.map .function),
      ∀ g ∈ functionsOf (Library.trigonometry.map .function), f.key = g.key → f = g := by
    intro f hf g hg hkey
    have hfound := (find?_eq_some_iff_of_nodup hnodup).mpr ⟨hf, hkey⟩
    have hfound' := (find?_eq_some_iff_of_nodup hnodup).mpr ⟨hg, rfl⟩
    exact Option.some.inj (hfound.symm.trans hfound')
  have hreversed : (ofRegistrations (Library.trigonometry.map .function)).reversed.functions.Perm
      (ofRegistrations (Library.trigonometry.map .function)).functions := List.reverse_perm _
  have hanswers := answers_of_same_functions hsame hdistinct hreversed (.refl _)
  obtain ⟨suggested, heq, -, hsuggests⟩ := hanswers.2.2.2.2 "Asine"
  exact ⟨hsame, hdistinct, hreversed, hanswers.2.2.2.1, suggested, heq, hsuggests⟩

end Registry

end Reckoner
