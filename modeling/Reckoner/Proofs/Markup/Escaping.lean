import Reckoner.Proofs.Markup.WellFormed

/-!
# Escaped text

Escaping goes character by character, and what it writes can be undone: the first two characters of a
spelling tell which character is spelled, so no spelling begins another. A typesetter reads an escaped
text as units of which none has a role of its own, except for the command that stands for a caret, which
brings an empty pair of braces with it.
-/

namespace Reckoner.Markup

/-- Characters that are not written as they are. -/
def specials : List Char := ['\\', '\x7b', '\x7d', '_', '%', '$', '&', '#', '^', '~']

theorem escapeChar_of_not_mem {c : Char} (h : c ∉ specials) : escapeChar c = [c] := by
  simp only [specials, List.mem_cons, List.not_mem_nil, not_or, or_false] at h
  simp [escapeChar, h]

theorem ne_backslash_of_not_mem {c : Char} (h : c ∉ specials) : c ≠ '\\' := by
  rintro rfl
  exact h List.mem_cons_self

/-- What holds of the spelling of every character may be checked on the special ones. -/
theorem forall_spelling {p : Char → List Char → Prop}
    (special : specials.Forall fun c => p c (escapeChar c)) (ordinary : ∀ c ∉ specials, p c [c])
    (c : Char) : p c (escapeChar c) := by
  by_cases h : c ∈ specials
  · exact List.forall_iff_forall_mem.mp special c h
  · rw [escapeChar_of_not_mem h]
    exact ordinary c h

theorem escapeChars_cons (c : Char) (cs : List Char) :
    escapeChars (c :: cs) = escapeChar c ++ escapeChars cs := List.flatMap_cons

/-! ## Reading back -/

/-- The character whose spelling a text begins with. -/
def firstSpelled : List Char → Option Char
  | [] => none
  | [c] => some c
  | c :: d :: _ =>
    if c ≠ '\\' then some c
    else if d = 'b' then some '\\'
    else if d = 'h' then some '^'
    else if d = 's' then some '~'
    else some d

theorem firstSpelled_escapeChar (c : Char) (rest : List Char) :
    firstSpelled (escapeChar c ++ rest) = some c := by
  refine forall_spelling (p := fun c spelling => firstSpelled (spelling ++ rest) = some c)
    ⟨rfl, rfl, rfl, rfl, rfl, rfl, rfl, rfl, rfl, rfl⟩ (fun c hc => ?_) c
  cases rest with
  | nil => rfl
  | cons d rest => exact if_pos (ne_backslash_of_not_mem hc)

theorem escapeChars_injective : Function.Injective escapeChars := by
  intro cs ds h
  -- The first characters are read off the two texts, and as they are the same their spellings cancel.
  induction cs generalizing ds with
  | nil =>
    cases ds with
    | nil => rfl
    | cons d ds =>
      have hfirst := firstSpelled_escapeChar d (escapeChars ds)
      rw [← escapeChars_cons, ← h] at hfirst
      cases hfirst
  | cons c cs ih =>
    have hfirst := firstSpelled_escapeChar c (escapeChars cs)
    rw [← escapeChars_cons, h] at hfirst
    cases ds with
    | nil => cases hfirst
    | cons d ds =>
      rw [escapeChars_cons, firstSpelled_escapeChar] at hfirst
      obtain rfl := Option.some.inj hfirst
      rw [escapeChars_cons, escapeChars_cons, List.append_cancel_left_eq] at h
      rw [ih h]

theorem escape_append (a b : String) : escape (a ++ b) = escape a ++ escape b := by
  simp [escape, escapeChars]

theorem escape_inj {a b : String} : escape a = escape b ↔ a = b := by
  rw [escape, escape, String.ofList_inj, escapeChars_injective.eq_iff, String.toList_inj]

/-! ## Safety -/

/-- A special character that no backslash takes. -/
def Piece.isBare : Piece → Bool
  | .plain c => specials.contains c
  | .escaped _ => false

/-- The command that stands for a caret, with its braces. -/
def hat : List Piece := [.escaped 'h', .plain 'a', .plain 't', .plain '\x7b', .plain '\x7d']

/-- Units that no reading of markup gives a role, but for the braces of `\hat`. -/
structure IsSafe (units : List Piece) : Prop where
  special : ∀ c ∈ ['%', '$', '&', '#', '_'], .plain c ∉ units
  /-- A brace that no backslash takes stands within a `\hat` and its empty pair. -/
  brace : ∀ i, ∀ c ∈ ['\x7b', '\x7d'], units[i]? = some (.plain c) →
    ∃ before after, units = before ++ hat ++ after ∧
      before.length ≤ i ∧ i < before.length + hat.length

theorem isSafe_hat : IsSafe hat where
  special := by simp [hat]
  brace i c _ hi := by
    refine ⟨[], [], rfl, Nat.zero_le i, ?_⟩
    rw [List.length_nil, Nat.zero_add]
    exact (List.getElem?_eq_some_iff.mp hi).1

theorem isSafe_of_isBare {units : List Piece} (h : ∀ u ∈ units, u.isBare = false) : IsSafe units := by
  have hfree {c : Char} (hc : c ∈ specials) : .plain c ∉ units := fun hmem => by
    have hbare := h _ hmem
    rw [Piece.isBare, List.contains_iff_mem.mpr hc] at hbare
    cases hbare
  constructor
  · intro c hc
    exact hfree (List.subset_def.mp (by simp [specials]) hc)
  · intro i c hc hi
    exact absurd (List.mem_of_getElem? hi) (hfree (List.subset_def.mp (by simp [specials]) hc))

theorem IsSafe.append {us vs : List Piece} (hus : IsSafe us) (hvs : IsSafe vs) : IsSafe (us ++ vs) where
  special c hc hmem := (List.mem_append.mp hmem).elim (hus.special c hc) (hvs.special c hc)
  brace i c hc hi := by
    obtain hleft | hright := Nat.lt_or_ge i us.length
    · rw [List.getElem?_append_left hleft] at hi
      obtain ⟨before, after, rfl, hfrom, hto⟩ := hus.brace i c hc hi
      exact ⟨before, after ++ vs, List.append_assoc _ _ _, hfrom, hto⟩
    · rw [List.getElem?_append_right hright] at hi
      obtain ⟨before, after, rfl, hfrom, hto⟩ := hvs.brace (i - us.length) c hc hi
      refine ⟨us ++ before, after, by simp only [List.append_assoc], ?_, ?_⟩ <;>
        rw [List.length_append] <;> omega

/-- A character is spelled as the hat, or with no special character that no backslash takes. -/
theorem isSafe_escapeChar (c : Char) : ∃ us, pieces? (escapeChar c) = some us ∧ IsSafe us := by
  have hspelling : ∃ us ∈ pieces? (escapeChar c), us = hat ∨ ∀ u ∈ us, u.isBare = false := by
    refine forall_spelling
      (p := fun _ spelling => ∃ us ∈ pieces? spelling, us = hat ∨ ∀ u ∈ us, u.isBare = false)
      (by decide) (fun c hc => ?_) c
    refine ⟨[.plain c], if_neg (ne_backslash_of_not_mem hc), .inr fun u hu => ?_⟩
    rw [List.mem_singleton.mp hu]
    simpa [Piece.isBare] using hc
  obtain ⟨us, hus, rfl | hfree⟩ := hspelling
  · exact ⟨hat, hus, isSafe_hat⟩
  · exact ⟨us, hus, isSafe_of_isBare hfree⟩

theorem isSafe_escapeChars (cs : List Char) : ∃ us, pieces? (escapeChars cs) = some us ∧ IsSafe us := by
  induction cs with
  | nil => exact ⟨[], rfl, isSafe_of_isBare (by simp)⟩
  | cons c cs ih =>
    obtain ⟨us, hus, hsafe⟩ := isSafe_escapeChar c
    obtain ⟨vs, hvs, hsafe'⟩ := ih
    refine ⟨us ++ vs, ?_, hsafe.append hsafe'⟩
    rw [escapeChars_cons, pieces?_append hus, hvs]
    rfl

theorem not_mem_escapeChars (cs : List Char) : '^' ∉ escapeChars cs ∧ '~' ∉ escapeChars cs := by
  have hspelling (c : Char) : '^' ∉ escapeChar c ∧ '~' ∉ escapeChar c := by
    refine forall_spelling (p := fun _ spelling => '^' ∉ spelling ∧ '~' ∉ spelling) (by decide)
      (fun c hc => ?_) c
    constructor <;> rintro hmem <;> obtain rfl := List.mem_singleton.mp hmem <;> exact hc (by decide)
  simp only [escapeChars, List.mem_flatMap, not_exists, not_and]
  exact ⟨fun c _ => (hspelling c).1, fun c _ => (hspelling c).2⟩

/-- Escaping works character by character and loses nothing. What it writes has no caret and no tilde and
is read to its end, as units in which only the hat has braces of its own. -/
theorem escape_lossless :
    (∀ a b, escape (a ++ b) = escape a ++ escape b) ∧ (∀ a b, escape a = escape b ↔ a = b) ∧
      ∀ text, '^' ∉ (escape text).toList ∧ '~' ∉ (escape text).toList ∧
        ∃ us, pieces? (escape text).toList = some us ∧ IsSafe us := by
  refine ⟨escape_append, fun a b => escape_inj, fun text => ?_⟩
  obtain ⟨hcaret, htilde⟩ := not_mem_escapeChars text.toList
  rw [escape, String.toList_ofList]
  exact ⟨hcaret, htilde, isSafe_escapeChars text.toList⟩

/-- A text that is written like escaped text already. -/
example : escape "\\hat\x7b\x7d^" = "\\backslash hat\\\x7b\\\x7d\\hat\x7b\x7d" := by decide

end Reckoner.Markup
