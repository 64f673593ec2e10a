import Reckoner.Store

/-!
# The store as a map

User variables stand in strictly increasing order of their names, so there is at most one of each
name, and which of them are there settles the whole list. Writing a variable puts it in the place of
the one of its name and changes nothing else.
-/

namespace Reckoner

variable {α : Type}

theorem Variable.Ordered.eq_of_name_eq {vs : List (Variable α)} (h : Variable.Ordered vs)
    {v w : Variable α} (hv : v ∈ vs) (hw : w ∈ vs) (hname : v.name = w.name) : v = w := by
  induction vs with
  | nil => cases hv
  | cons u rest ih =>
    obtain ⟨hu, hrest⟩ := List.pairwise_cons.mp h
    rcases List.mem_cons.mp hv with rfl | hv' <;> rcases List.mem_cons.mp hw with rfl | hw'
    · rfl
    · exact absurd (hu w hw') (hname ▸ String.lt_irrefl _)
    · exact absurd (hu v hv') (hname ▸ String.lt_irrefl _)
    · exact ih hrest hv' hw'

theorem Variable.Ordered.nodup {vs : List (Variable α)} (h : Variable.Ordered vs) : vs.Nodup := by
  refine List.Pairwise.imp ?_ h
  rintro v _ hlt rfl
  exact String.lt_irrefl _ hlt

/-- Which variables are there settles their list. -/
theorem Variable.Ordered.eq_of_mem_iff {vs ws : List (Variable α)} (hvs : Variable.Ordered vs)
    (hws : Variable.Ordered ws) (h : ∀ v, v ∈ vs ↔ v ∈ ws) : vs = ws := by
  have hperm : vs.Perm ws := (List.perm_ext_iff_of_nodup hvs.nodup hws.nodup).mpr h
  refine List.Perm.eq_of_pairwise ?_ hvs hws hperm
  intro v w _ _ hlt hgt
  exact absurd (String.lt_trans hlt hgt) (String.lt_irrefl _)

namespace Store

theorem mem_insertSorted_iff {v u : Variable α} {vs : List (Variable α)}
    (h : Variable.Ordered vs) :
    u ∈ insertSorted v vs ↔ u = v ∨ u ∈ vs ∧ u.name ≠ v.name := by
  induction vs with
  | nil => simp [insertSorted]
  | cons w rest ih =>
    obtain ⟨hw, hrest⟩ := List.pairwise_cons.mp h
    unfold insertSorted
    split
    · rename_i hlt
      -- Every name of the list comes after that of `v`.
      have hne : ∀ u ∈ w :: rest, u.name ≠ v.name := by
        intro u hu heq
        rcases List.mem_cons.mp hu with rfl | hu
        · exact String.lt_irrefl _ (heq ▸ hlt)
        · exact String.lt_irrefl _ (heq ▸ String.lt_trans hlt (hw u hu))
      rw [List.mem_cons]
      exact or_congr_right ⟨fun hu => ⟨hu, hne u hu⟩, And.left⟩
    · split
      · rename_i heq
        -- The names after that of `w` are not the name of `v`.
        have hne : ∀ u ∈ rest, u.name ≠ v.name := by
          intro u hu hname
          exact String.lt_irrefl _ (heq.symm.trans hname.symm ▸ hw u hu)
        rw [List.mem_cons, List.mem_cons]
        constructor
        · rintro (rfl | hu)
          · exact .inl rfl
          · exact .inr ⟨.inr hu, hne u hu⟩
        · rintro (rfl | ⟨rfl | hu, hname⟩)
          · exact .inl rfl
          · exact absurd heq.symm hname
          · exact .inr hu
      · rename_i hne
        rw [List.mem_cons, List.mem_cons, ih hrest]
        constructor
        · rintro (rfl | rfl | ⟨hu, hname⟩)
          · exact .inr ⟨.inl rfl, fun h => hne h.symm⟩
          · exact .inl rfl
          · exact .inr ⟨.inr hu, hname⟩
        · rintro (rfl | ⟨rfl | hu, hname⟩)
          · exact .inr (.inl rfl)
          · exact .inl rfl
          · exact .inr (.inr ⟨hu, hname⟩)

theorem name_of_find?_eq_some {s : Store α} {name : String} {v : Variable α}
    (h : s.find? name = some v) : v.name = name := by
  have hfound := List.find?_some h
  exact eq_of_beq hfound

theorem find?_eq_some_iff {s : Store α} {name : String} {v : Variable α} :
    s.find? name = some v ↔ v ∈ s.user ∧ v.name = name := by
  constructor
  · intro h
    exact ⟨List.mem_of_find?_eq_some h, name_of_find?_eq_some h⟩
  · rintro ⟨hv, rfl⟩
    cases h : s.find? v.name with
    | none => exact absurd (List.find?_eq_none.mp h v hv) (by simp)
    | some w =>
      rw [s.ordered.eq_of_name_eq (List.mem_of_find?_eq_some h) hv (name_of_find?_eq_some h)]

theorem find?_name_eq_some_iff (s : Store α) (v : Variable α) :
    s.find? v.name = some v ↔ v ∈ s.user := by
  rw [find?_eq_some_iff, and_iff_left rfl]

/-- A store is settled by its constants and by what is found under each name. -/
theorem eq_of_find?_eq {s t : Store α} (hbuiltins : s.builtins = t.builtins)
    (hfind : ∀ name, s.find? name = t.find? name) : s = t := by
  have hmem : ∀ v, v ∈ s.user ↔ v ∈ t.user := by
    intro v
    rw [← s.find?_name_eq_some_iff, ← t.find?_name_eq_some_iff, hfind]
  have huser : s.user = t.user := s.ordered.eq_of_mem_iff t.ordered hmem
  cases s
  cases t
  cases hbuiltins
  cases huser
  rfl

/-- One store is another with the entry under the name of `v` replaced by `v`. -/
structure Replaces (old new : Store α) (v : Variable α) : Prop where
  builtins_eq : new.builtins = old.builtins
  mem_user_iff : ∀ u, u ∈ new.user ↔ u = v ∨ u ∈ old.user ∧ u.name ≠ v.name
  find?_eq : ∀ name, new.find? name = if name = v.name then some v else old.find? name

theorem find?_of_mem_user_iff {old new : Store α} {v : Variable α}
    (h : ∀ u, u ∈ new.user ↔ u = v ∨ u ∈ old.user ∧ u.name ≠ v.name) (name : String) :
    new.find? name = if name = v.name then some v else old.find? name := by
  apply Option.ext
  intro u
  rw [find?_eq_some_iff, h]
  split
  · rename_i hname
    rw [Option.some.injEq]
    constructor
    · rintro ⟨rfl | ⟨-, hne⟩, hu⟩
      · rfl
      · exact absurd (hu.trans hname) hne
    · rintro rfl
      exact ⟨.inl rfl, hname.symm⟩
  · rename_i hname
    rw [find?_eq_some_iff]
    constructor
    · rintro ⟨rfl | ⟨hu, -⟩, hu'⟩
      · exact absurd hu'.symm hname
      · exact ⟨hu, hu'⟩
    · rintro ⟨hu, rfl⟩
      exact ⟨.inr ⟨hu, hname⟩, rfl⟩

theorem exists_set_eq_ok (s : Store α) {v : Variable α} (hname : v.name.isEmpty = false) :
    ∃ new, s.set v = .ok new ∧ s.Replaces new v := by
  have hmem : ∀ u, u ∈ insertSorted v s.user ↔ u = v ∨ u ∈ s.user ∧ u.name ≠ v.name := fun u =>
    mem_insertSorted_iff s.ordered
  refine ⟨_, if_neg (by simp [hname]), rfl, hmem, ?_⟩
  exact find?_of_mem_user_iff hmem

theorem name_ne_empty_of_set {s new : Store α} {v : Variable α} (h : s.set v = .ok new) :
    v.name ≠ "" := by
  intro hname
  unfold set at h
  rw [if_pos (String.isEmpty_iff.mpr hname)] at h
  cases h

theorem find?_remove (s : Store α) (dropped name : String) :
    (s.remove dropped).find? name = if name = dropped then none else s.find? name := by
  have hmem : ∀ v, v ∈ (s.remove dropped).user ↔ v ∈ s.user ∧ v.name ≠ dropped := by
    intro v
    simp [remove, List.mem_filter]
  apply Option.ext
  intro v
  rw [find?_eq_some_iff, hmem]
  split
  · rename_i hname
    constructor
    · rintro ⟨⟨-, hne⟩, hv⟩
      exact absurd (hv.trans hname) hne
    · exact nofun
  · rename_i hname
    rw [find?_eq_some_iff]
    constructor
    · rintro ⟨⟨hv, -⟩, hv'⟩
      exact ⟨hv, hv'⟩
    · rintro ⟨hv, rfl⟩
      exact ⟨⟨hv, hname⟩, rfl⟩

theorem find?_clear (s : Store α) (name : String) : s.clear.find? name = none := rfl

theorem value_of_find? {s : Store α} {name : String} {v : Variable α} (h : s.find? name = some v) :
    s.value name = .ok v.value := by
  unfold value value?
  rw [h]

/-- Where no user variable is in the way, the constants show. -/
theorem value_of_find?_eq_none {s : Store α} {name : String} (h : s.find? name = none) :
    s.value name =
      (s.builtins.lookup name).elim (Cause.undefinedVariable name).throw Except.ok := by
  unfold value value?
  rw [h]
  cases s.builtins.lookup name with
  | none => rfl
  | some x => rfl

theorem exists_value_eq_ok_iff (s : Store α) (name : String) :
    (∃ x, s.value name = .ok x) ↔ s.has name = true := by
  unfold has isBuiltin
  cases hfind : s.find? name with
  | some v =>
    rw [value_of_find? hfind]
    exact ⟨fun _ => rfl, fun _ => ⟨v.value, rfl⟩⟩
  | none =>
    rw [value_of_find?_eq_none hfind]
    cases s.builtins.lookup name with
    | none => exact ⟨nofun, nofun⟩
    | some x => exact ⟨fun _ => rfl, fun _ => ⟨x, rfl⟩⟩

theorem lookup_ofRegistry (r : Registry α) (name : String) :
    (ofRegistry r).builtins.lookup name = (r.constant? name).map Constant.value := by
  show (r.constants.map fun c => (c.name, c.value)).lookup name =
    (r.constants.find? fun c => c.name == name).map Constant.value
  induction r.constants with
  | nil => rfl
  | cons c rest ih =>
    rw [List.map_cons, List.lookup_cons, List.find?_cons, ih, Bool.beq_comm]
    cases c.name == name <;> rfl

/-- What a name stands for that only the registry knows. -/
def constantValue (r : Registry α) (name : String) : Answer α α :=
  (r.constant? name).elim (Cause.undefinedVariable name).throw fun c => .ok c.value

theorem value_eq_constantValue {s : Store α} {r : Registry α} {name : String}
    (hbuiltins : s.builtins = (ofRegistry r).builtins) (h : s.find? name = none) :
    s.value name = constantValue r name := by
  rw [value_of_find?_eq_none h, hbuiltins, lookup_ofRegistry, constantValue]
  cases r.constant? name <;> rfl

end Store

end Reckoner
