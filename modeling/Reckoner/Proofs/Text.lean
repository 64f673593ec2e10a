import Mathlib.Data.List.DropRight
import Mathlib.Data.List.TakeWhile
import Reckoner.Text.Blank

/-!
# Runs of characters

Where a run of characters of one kind ends, and what trimming leaves of a text.
-/

namespace Reckoner.Text

/-- A code point in some ranges is one of those that they list. -/
theorem mem_of_inRanges {ranges : List (Nat × Nat)} {n : Nat} (h : inRanges ranges n = true) :
    n ∈ ranges.flatMap fun r => List.range' r.1 (r.2 + 1 - r.1) := by
  induction ranges with
  | nil => cases h
  | cons r rest ih =>
    obtain ⟨lo, hi⟩ := r
    rw [List.flatMap_cons, List.mem_append]
    unfold inRanges at h
    split at h
    · cases h
    · obtain hhi | hrest := Bool.or_eq_true_iff.mp h
      · have hle : n ≤ hi := of_decide_eq_true hhi
        exact .inl (List.mem_range'_1.mpr (by omega))
      · exact .inr (ih hrest)

section Runs

variable {p : Char → Bool} {run rest : List Char}

/-- A run of characters ends where another kind of character follows. -/
theorem takeWhile_append_of_stop (hrun : ∀ c ∈ run, p c = true) (hrest : ∀ c ∈ rest.head?, p c = false) :
    (run ++ rest).takeWhile p = run := by
  have hstop : rest.takeWhile p = [] := by
    cases rest with
    | nil => rfl
    | cons c rest => simp [hrest c rfl]
  rw [List.takeWhile_append_of_pos hrun, hstop, List.append_nil]

theorem dropWhile_append_of_stop (hrun : ∀ c ∈ run, p c = true) (hrest : ∀ c ∈ rest.head?, p c = false) :
    (run ++ rest).dropWhile p = rest := by
  rw [List.dropWhile_append_of_pos hrun]
  cases rest with
  | nil => rfl
  | cons c rest => simp [hrest c rfl]

end Runs

theorem trimChars_between {before more after : List Char} {c : Char}
    (hbefore : ∀ b ∈ before, isBlank b = true) (hname : ∀ d ∈ c :: more, isBlank d = false)
    (hafter : ∀ b ∈ after, isBlank b = true) : trimChars (before ++ (c :: more ++ after)) = c :: more := by
  have hfront : (before ++ (c :: more ++ after)).dropWhile isBlank = c :: more ++ after :=
    dropWhile_append_of_stop hbefore (by rintro _ ⟨⟩; exact hname c List.mem_cons_self)
  have hback : (after.reverse ++ (c :: more).reverse).dropWhile isBlank = (c :: more).reverse :=
    dropWhile_append_of_stop (fun b hb => hafter b (List.mem_reverse.mp hb)) fun d hd =>
      hname d (List.mem_reverse.mp (List.mem_of_head? hd))
  rw [trimChars, hfront, List.reverse_append, hback, List.reverse_reverse]

theorem trimChars_trimChars (cs : List Char) : trimChars (trimChars cs) = trimChars cs := by
  have hfront : trimChars cs = trimChars (cs.dropWhile isBlank) := by
    rw [trimChars, trimChars, List.dropWhile_idempotent]
  rw [hfront]
  cases h : cs.dropWhile isBlank with
  | nil => rfl
  | cons c rest =>
    have hc : isBlank c = false := by
      have hnot := List.head?_dropWhile_not isBlank cs
      rw [h] at hnot
      exact hnot
    rw [trimChars_cons hc, trimChars_cons hc, List.reverse_reverse, List.dropWhile_idempotent]

/-- A text is what trimming leaves of it, between blanks. -/
theorem exists_between_trimChars (cs : List Char) :
    ∃ before after, cs = before ++ (trimChars cs ++ after) ∧
      (∀ b ∈ before, isBlank b = true) ∧ ∀ b ∈ after, isBlank b = true := by
  refine ⟨cs.takeWhile isBlank, (cs.dropWhile isBlank).rtakeWhile isBlank, ?_, ?_, ?_⟩
  · have hback : trimChars cs ++ (cs.dropWhile isBlank).rtakeWhile isBlank = cs.dropWhile isBlank :=
      List.rdropWhile_append_rtakeWhile
    rw [hback, List.takeWhile_append_dropWhile]
  · intro b hb
    exact List.mem_takeWhile_imp hb
  · intro b hb
    exact List.mem_rtakeWhile_imp hb

/-- Dropping characters from the end keeps at least as much when more text stands behind. -/
theorem rdropWhile_prefix_append (p : Char → Bool) (cs more : List Char) :
    cs.rdropWhile p <+: (cs ++ more).rdropWhile p := by
  induction more using List.reverseRecOn with
  | nil => simp
  | append_singleton more c ih =>
    rw [← List.append_assoc, List.rdropWhile_concat]
    split
    · exact ih
    · rw [List.append_assoc]
      exact (List.rdropWhile_prefix p cs).trans (List.prefix_append _ _)

/-- Text put behind one that is not blank takes nothing from what trimming leaves of it. -/
theorem trimChars_prefix_append {cs : List Char} (h : ∃ c ∈ cs, isBlank c = false) (more : List Char) :
    trimChars cs <+: trimChars (cs ++ more) := by
  have hfront : (cs ++ more).dropWhile isBlank = cs.dropWhile isBlank ++ more := by
    rw [List.dropWhile_append, if_neg]
    rw [List.isEmpty_iff, List.dropWhile_eq_nil_iff]
    intro hall
    obtain ⟨c, hc, hblank⟩ := h
    rw [hall c hc] at hblank
    cases hblank
  change (cs.dropWhile isBlank).rdropWhile isBlank <+: ((cs ++ more).dropWhile isBlank).rdropWhile isBlank
  rw [hfront]
  exact rdropWhile_prefix_append isBlank _ more

theorem trim_trim (s : String) : trim (trim s) = trim s := by
  rw [trim, trim, String.toList_ofList, trimChars_trimChars]

end Reckoner.Text
