/-!
# Searching in texts

Prefix, substring and split, over characters.
-/

namespace Reckoner.Text

/-- `needle` stands somewhere in `hay`. -/
def containsChars (needle : List Char) : List Char → Bool
  | [] => needle.isEmpty
  | c :: rest => needle.isPrefixOf (c :: rest) || containsChars needle rest

def startsWith (s start : String) : Bool := start.toList.isPrefixOf s.toList

def contains (s part : String) : Bool := containsChars part.toList s.toList

/-- What stands before and after the first `mark`, if there is one. -/
def splitFirst? (mark : Char) : List Char → Option (List Char × List Char)
  | [] => none
  | c :: rest =>
    if c = mark then some ([], rest)
    else (splitFirst? mark rest).map fun (before, after) => (c :: before, after)

theorem splitFirst?_append {mark : Char} {before after : List Char} (h : mark ∉ before) :
    splitFirst? mark (before ++ mark :: after) = some (before, after) := by
  induction before with
  | nil => simp [splitFirst?]
  | cons c rest ih =>
    obtain ⟨hne, hrest⟩ : mark ≠ c ∧ mark ∉ rest := by simpa using h
    simp [splitFirst?, Ne.symm hne, ih hrest]

theorem eq_append_of_splitFirst? {mark : Char} {cs before after : List Char}
    (h : splitFirst? mark cs = some (before, after)) :
    cs = before ++ mark :: after ∧ mark ∉ before := by
  induction cs generalizing before with
  | nil => cases h
  | cons c rest ih =>
    unfold splitFirst? at h
    split at h
    · rename_i hmark
      cases h
      exact ⟨hmark ▸ rfl, List.not_mem_nil⟩
    · rename_i hmark
      obtain ⟨_, hrest, heq⟩ := Option.map_eq_some_iff.mp h
      cases heq
      obtain ⟨rfl, hmem⟩ := ih hrest
      exact ⟨rfl, by simp [Ne.symm hmark, hmem]⟩

/-- Equality of ASCII text up to the case of its letters. Other characters stand for themselves. -/
def sameIgnoringCase (a b : String) : Bool :=
  a.toList.map Char.toLower == b.toList.map Char.toLower

end Reckoner.Text
