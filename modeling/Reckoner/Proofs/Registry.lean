import Reckoner.Proofs.Store

/-!
# Registering functions and constants

What a registry answers after any registrations. Its two tables are kept in the same way: what is
registered takes the place of everything of its key and goes to the end. So a table holds what was
registered last under each key, in the order of these last registrations. The keys differ: functions
are found in lower case, constants by their exact names. A store over the registry has a copy of the
constants.
-/

namespace Reckoner

/-! ## Tables with the last entry of each key -/

section

variable {β : Type} {key : β → String} {written table : List β} {x y : β}

/-- The element was written, and nothing of its key after it. -/
def LastOf (key : β → String) (written : List β) (x : β) : Prop :=
  ∃ earlier later, written = earlier ++ x :: later ∧ ∀ z ∈ later, key z ≠ key x

/-- The elements were both written last under their keys, `x` before `y`. -/
def LastBefore (key : β → String) (written : List β) (x y : β) : Prop :=
  ∃ before between after, written = before ++ x :: (between ++ y :: after) ∧
    (∀ z ∈ between ++ y :: after, key z ≠ key x) ∧ ∀ z ∈ after, key z ≠ key y

theorem not_lastOf_nil (x : β) : ¬ LastOf key [] x := by
  rintro ⟨earlier, later, h, -⟩
  exact List.append_ne_nil_of_right_ne_nil earlier (List.cons_ne_nil x later) h.symm

theorem lastOf_concat_iff :
    LastOf key (written ++ [x]) y ↔ y = x ∨ LastOf key written y ∧ key x ≠ key y := by
  constructor
  · rintro ⟨earlier, later, h, hlater⟩
    obtain rfl | ⟨more, z, rfl⟩ := List.eq_nil_or_concat later
    · obtain ⟨-, hlast⟩ := List.append_inj' h rfl
      exact .inl (List.singleton_inj.mp hlast).symm
    · rw [List.concat_eq_append] at h hlater
      rw [← List.cons_append, ← List.append_assoc] at h
      obtain ⟨hwritten, hlast⟩ := List.append_inj' h rfl
      obtain rfl := List.singleton_inj.mp hlast
      refine .inr ⟨⟨earlier, more, hwritten, fun w hw => ?_⟩, hlater x (by simp)⟩
      exact hlater w (List.mem_append_left _ hw)
  · rintro (rfl | ⟨⟨earlier, later, rfl, hlater⟩, hne⟩)
    · exact ⟨written, [], rfl, List.forall_mem_nil _⟩
    · refine ⟨earlier, later ++ [x], by simp, ?_⟩
      exact List.forall_mem_append.mpr ⟨hlater, List.forall_mem_singleton.mpr hne⟩

theorem LastOf.mem (h : LastOf key written x) : x ∈ written := by
  obtain ⟨earlier, later, rfl, -⟩ := h
  exact List.mem_append_right earlier List.mem_cons_self

theorem exists_lastOf_of_mem (key : β → String) (h : x ∈ written) :
    ∃ y, LastOf key written y ∧ key y = key x := by
  induction written generalizing x with
  | nil => cases h
  | cons w rest ih =>
    by_cases hagain : ∃ z ∈ rest, key z = key x
    · obtain ⟨z, hz, hkey⟩ := hagain
      obtain ⟨y, ⟨earlier, later, rfl, hlater⟩, hy⟩ := ih hz
      exact ⟨y, ⟨w :: earlier, later, rfl, hlater⟩, hy.trans hkey⟩
    · obtain rfl | hrest := List.mem_cons.mp h
      · exact ⟨x, ⟨[], rest, rfl, fun z hz hkey => hagain ⟨z, hz, hkey⟩⟩, rfl⟩
      · exact absurd ⟨x, hrest, rfl⟩ hagain

/-- Where no two elements share a key, each was written last under its own. -/
theorem lastOf_iff_mem (hdistinct : ∀ x ∈ written, ∀ y ∈ written, key x = key y → x = y) :
    LastOf key written x ↔ x ∈ written := by
  refine ⟨LastOf.mem, fun hx => ?_⟩
  obtain ⟨y, hlast, hkey⟩ := exists_lastOf_of_mem key hx
  exact hdistinct y hlast.mem x hx hkey ▸ hlast

theorem LastBefore.key_ne (h : LastBefore key written x y) : key y ≠ key x := by
  obtain ⟨before, between, after, -, hlater, -⟩ := h
  exact hlater y (List.mem_append_right between List.mem_cons_self)

/-- Writing under another key changes nothing of what was last. -/
theorem LastBefore.concat {w : β} (h : LastBefore key written x y) (hx : key w ≠ key x)
    (hy : key w ≠ key y) : LastBefore key (written ++ [w]) x y := by
  obtain ⟨before, between, after, rfl, hlater, hafter⟩ := h
  refine ⟨before, between, after ++ [w], by simp, ?_, ?_⟩
  · rw [← List.cons_append, ← List.append_assoc]
    exact List.forall_mem_append.mpr ⟨hlater, List.forall_mem_singleton.mpr hx⟩
  · exact List.forall_mem_append.mpr ⟨hafter, List.forall_mem_singleton.mpr hy⟩

theorem LastOf.lastBefore (h : LastOf key written x) (hne : key y ≠ key x) :
    LastBefore key (written ++ [y]) x y := by
  obtain ⟨earlier, later, rfl, hlater⟩ := h
  refine ⟨earlier, later, [], by simp, ?_, List.forall_mem_nil _⟩
  exact List.forall_mem_append.mpr ⟨hlater, List.forall_mem_singleton.mpr hne⟩

theorem lastOf_map_iff {γ : Type} {g : γ → β} {xs : List γ} :
    LastOf key (xs.map g) y ↔ ∃ z, LastOf (key ∘ g) xs z ∧ g z = y := by
  constructor
  · rintro ⟨earlier, later, h, hlater⟩
    obtain ⟨front, back, rfl, -, hback⟩ := List.map_eq_append_iff.mp h
    obtain ⟨z, rest, rfl, rfl, rfl⟩ := List.map_eq_cons_iff.mp hback
    exact ⟨z, ⟨front, rest, rfl, fun w hw => hlater (g w) (List.mem_map_of_mem hw)⟩, rfl⟩
  · rintro ⟨z, ⟨earlier, later, rfl, hlater⟩, rfl⟩
    exact ⟨earlier.map g, later.map g, by simp, List.forall_mem_map.mpr hlater⟩

/-- The table holds what was written last under each key, in that order. -/
structure IsLatest (key : β → String) (written table : List β) : Prop where
  mem_iff : ∀ x, x ∈ table ↔ LastOf key written x
  ordered : table.Pairwise (LastBefore key written)

theorem isLatest_nil : IsLatest key [] [] := by
  refine ⟨fun x => ?_, .nil⟩
  exact iff_of_false List.not_mem_nil (not_lastOf_nil x)

/-- The step lemma: a new element takes the place of what has its key, at the end of the table. -/
theorem IsLatest.put (h : IsLatest key written table) (x : β) :
    IsLatest key (written ++ [x]) (table.filter (fun y => key y != key x) ++ [x]) := by
  have hkept : ∀ y, y ∈ table.filter (fun y => key y != key x) ↔
      LastOf key written y ∧ key y ≠ key x := by
    intro y
    rw [List.mem_filter, h.mem_iff, bne_iff_ne]
  constructor
  · intro y
    rw [List.mem_append, hkept, List.mem_singleton, lastOf_concat_iff, or_comm, ne_comm]
  · rw [List.pairwise_append]
    refine ⟨?_, List.pairwise_singleton _ x, ?_⟩
    · refine List.Pairwise.imp_of_mem ?_ (h.ordered.filter _)
      intro y z hy hz hbefore
      exact hbefore.concat ((hkept y).mp hy).2.symm ((hkept z).mp hz).2.symm
    · intro y hy z hz
      obtain rfl := List.mem_singleton.mp hz
      exact ((hkept y).mp hy).1.lastBefore ((hkept y).mp hy).2.symm

theorem IsLatest.nodup (h : IsLatest key written table) : (table.map key).Nodup := by
  rw [List.Nodup, List.pairwise_map]
  exact h.ordered.imp fun hbefore => hbefore.key_ne.symm

/-- In a table of distinct keys nothing of the key of an element stands before it. -/
theorem exists_split_of_nodup (hnodup : (table.map key).Nodup) (hx : x ∈ table) :
    ∃ before after, table = before ++ x :: after ∧ ∀ y ∈ before, key y ≠ key x := by
  obtain ⟨before, after, rfl⟩ := List.append_of_mem hx
  rw [List.map_append, List.map_cons, List.nodup_append] at hnodup
  exact ⟨before, after, rfl, fun y hy => hnodup.2.2 _ (List.mem_map_of_mem hy) _ List.mem_cons_self⟩

/-- So what is found under a key is what is there. -/
theorem find?_eq_some_iff_of_nodup (hnodup : (table.map key).Nodup) {k : String} :
    table.find? (fun y => key y == k) = some x ↔ x ∈ table ∧ key x = k := by
  constructor
  · intro h
    have hfound := List.find?_some h
    exact ⟨List.mem_of_find?_eq_some h, eq_of_beq hfound⟩
  · rintro ⟨hx, rfl⟩
    obtain ⟨before, after, rfl, hbefore⟩ := exists_split_of_nodup hnodup hx
    refine List.find?_eq_some_iff_append.mpr ⟨beq_self_eq_true _, before, after, rfl, fun y hy => ?_⟩
    rw [Bool.not_eq_true', beq_eq_false_iff_ne]
    exact hbefore y hy

theorem lookup_eq_some_iff_of_nodup {table : List (String × β)} (hnodup : (table.map Prod.fst).Nodup)
    {k : String} : table.lookup k = some x ↔ (k, x) ∈ table := by
  constructor
  · intro h
    obtain ⟨before, after, rfl, -⟩ := List.lookup_eq_some_iff.mp h
    exact List.mem_append_right before List.mem_cons_self
  · intro h
    obtain ⟨before, after, rfl, hbefore⟩ := exists_split_of_nodup hnodup h
    refine List.lookup_eq_some_iff.mpr ⟨before, after, rfl, fun entry hentry => ?_⟩
    exact bne_iff_ne.mpr (hbefore entry hentry).symm

end

/-! ## Sorted names -/

theorem pairwise_le_mergeSort (names : List String) :
    (names.mergeSort fun a b => decide (a ≤ b)).Pairwise (· ≤ ·) := by
  refine List.Pairwise.imp of_decide_eq_true (List.pairwise_mergeSort ?_ ?_ names)
  · intro a b c hab hbc
    exact decide_eq_true (String.le_trans (of_decide_eq_true hab) (of_decide_eq_true hbc))
  · intro a b
    rw [Bool.or_eq_true, decide_eq_true_eq, decide_eq_true_eq]
    exact String.le_total a b

theorem increasing_mergeSort {names : List String} (hnodup : names.Nodup) :
    (names.mergeSort fun a b => decide (a ≤ b)).Pairwise (· < ·) := by
  have hdistinct := (List.mergeSort_perm names fun a b => decide (a ≤ b)).nodup_iff.mpr hnodup
  exact ((pairwise_le_mergeSort names).and hdistinct).imp fun ⟨hle, hne⟩ => Std.lt_of_le_of_ne hle hne

/-- Names are sorted in one way. -/
theorem mergeSort_eq_of_perm {names names' : List String} (h : names.Perm names') :
    (names.mergeSort fun a b => decide (a ≤ b)) = names'.mergeSort fun a b => decide (a ≤ b) :=
  List.Perm.eq_of_pairwise (fun _ _ _ _ => String.le_antisymm) (pairwise_le_mergeSort names)
    (pairwise_le_mergeSort names')
    ((List.mergeSort_perm names _).trans (h.trans (List.mergeSort_perm names' _).symm))

/-! ## Registrations -/

/-- What a registry is asked to take up. -/
inductive Registration (α : Type) where
  | function (f : Function α)
  | constant (c : Constant α)

variable {α : Type}

namespace Registration

def function? : Registration α → Option (Function α)
  | function f => some f
  | constant _ => none

def constant? : Registration α → Option (Constant α)
  | function _ => none
  | constant c => some c

def functionsOf (rs : List (Registration α)) : List (Function α) := rs.filterMap function?

def constantsOf (rs : List (Registration α)) : List (Constant α) := rs.filterMap constant?

end Registration

/-- Under what a function is found. -/
def Function.key (f : Function α) : String := Text.lower f.name

def Function.entry (f : Function α) : String × Function α := (f.key, f)

namespace Registry

open Registration

def register (r : Registry α) : Registration α → Registry α
  | .function f => r.withFunction f
  | .constant c => r.withConstant c

/-- The registry after some registrations, the first of them first. -/
def ofRegistrations (rs : List (Registration α)) : Registry α := rs.foldl register empty

/-- Both tables hold what was registered last under each key. -/
structure Records (r : Registry α) (fs : List (Function α)) (cs : List (Constant α)) : Prop where
  functions : IsLatest Prod.fst (fs.map Function.entry) r.functions
  constants : IsLatest Constant.name cs r.constants

variable {r : Registry α} {fs : List (Function α)} {cs : List (Constant α)}

theorem Records.register (h : r.Records fs cs) (next : Registration α) :
    (r.register next).Records (fs ++ functionsOf [next]) (cs ++ constantsOf [next]) := by
  cases next with
  | function f =>
    refine ⟨?_, ?_⟩
    · rw [List.map_append]
      exact h.functions.put f.entry
    · exact (List.append_nil cs).symm ▸ h.constants
  | constant c =>
    refine ⟨?_, h.constants.put c⟩
    exact (List.append_nil fs).symm ▸ h.functions

/-- The run lemma. -/
theorem Records.foldl (h : r.Records fs cs) (rs : List (Registration α)) :
    (rs.foldl Registry.register r).Records (fs ++ functionsOf rs) (cs ++ constantsOf rs) := by
  induction rs generalizing r fs cs with
  | nil =>
    show r.Records (fs ++ []) (cs ++ [])
    rw [List.append_nil, List.append_nil]
    exact h
  | cons next rest ih =>
    have hrest := ih (h.register next)
    rw [List.append_assoc, List.append_assoc, functionsOf, functionsOf, constantsOf, constantsOf,
      ← List.filterMap_append, ← List.filterMap_append] at hrest
    exact hrest

theorem records_empty : (empty : Registry α).Records [] [] := ⟨isLatest_nil, isLatest_nil⟩

theorem records_ofRegistrations (rs : List (Registration α)) :
    (ofRegistrations rs).Records (functionsOf rs) (constantsOf rs) :=
  records_empty.foldl rs

namespace Records

theorem mem_functions_iff (h : r.Records fs cs) {entry : String × Function α} :
    entry ∈ r.functions ↔ ∃ f, LastOf Function.key fs f ∧ f.entry = entry := by
  rw [h.functions.mem_iff, lastOf_map_iff]
  rfl

theorem function?_eq_some_iff (h : r.Records fs cs) {name : String} {f : Function α} :
    r.function? name = some f ↔ LastOf Function.key fs f ∧ f.key = Text.lower name := by
  rw [function?, lookup_eq_some_iff_of_nodup h.functions.nodup, h.mem_functions_iff]
  constructor
  · rintro ⟨g, hlast, hentry⟩
    obtain rfl : g = f := congrArg Prod.snd hentry
    exact ⟨hlast, congrArg Prod.fst hentry⟩
  · rintro ⟨hlast, hkey⟩
    exact ⟨f, hlast, congrArg (·, f) hkey⟩

theorem constant?_eq_some_iff (h : r.Records fs cs) {name : String} {c : Constant α} :
    r.constant? name = some c ↔ LastOf Constant.name cs c ∧ c.name = name := by
  rw [constant?, find?_eq_some_iff_of_nodup h.constants.nodup, h.constants.mem_iff]

end Records

theorem functionNames_eq (r : Registry α) (category : Option String) :
    r.functionNames category =
      ((r.functions.filter fun entry => category.all (entry.2.category == ·)).map
        fun entry => entry.2.name).mergeSort fun a b => decide (a ≤ b) := by
  cases category <;> rfl

/-- The names in lower case are distinct, so the names are. -/
theorem Records.functionNames_increasing (h : r.Records fs cs) (category : Option String) :
    (r.functionNames category).Pairwise (· < ·) := by
  rw [functionNames_eq]
  refine increasing_mergeSort ?_
  have hkeys : r.functions.Pairwise fun entry entry' => entry.1 ≠ entry'.1 :=
    List.pairwise_map.mp h.functions.nodup
  rw [List.Nodup, List.pairwise_map]
  refine (hkeys.imp_of_mem ?_).filter _
  intro entry entry' hmem hmem' hne hname
  obtain ⟨f, -, rfl⟩ := h.mem_functions_iff.mp hmem
  obtain ⟨g, -, rfl⟩ := h.mem_functions_iff.mp hmem'
  exact hne (congrArg Text.lower hname)

theorem Records.mem_functionNames_iff (h : r.Records fs cs) {category : Option String}
    {name : String} : name ∈ r.functionNames category ↔
      ∃ f, LastOf Function.key fs f ∧ (∀ wanted ∈ category, f.category = wanted) ∧ f.name = name := by
  rw [functionNames_eq, List.mem_mergeSort, List.mem_map]
  simp only [List.mem_filter, h.mem_functions_iff, Option.all_eq_true, beq_iff_eq]
  constructor
  · rintro ⟨entry, ⟨⟨f, hlast, rfl⟩, hcategory⟩, hname⟩
    exact ⟨f, hlast, hcategory, hname⟩
  · rintro ⟨f, hlast, hcategory, hname⟩
    exact ⟨f.entry, ⟨⟨f, hlast, rfl⟩, hcategory⟩, hname⟩

/-- A store over the registry knows the constants and nothing else. -/
theorem value_ofRegistry_eq_ok_iff {name : String} {x : α} :
    (Store.ofRegistry r).value name = .ok x ↔ ∃ c, r.constant? name = some c ∧ c.value = x := by
  rw [Store.value_eq_constantValue rfl rfl, Store.constantValue]
  cases r.constant? name with
  | none =>
    constructor
    · intro h
      cases h
    · rintro ⟨c, h, -⟩
      cases h
  | some c =>
    constructor
    · exact fun h => ⟨c, rfl, Except.ok.inj h⟩
    · rintro ⟨_, ⟨⟩, rfl⟩
      rfl

theorem builtinNames_ofRegistry (r : Registry α) : (Store.ofRegistry r).builtinNames =
    (r.constants.map Constant.name).mergeSort fun a b => decide (a ≤ b) := by
  show ((r.constants.map fun c => (c.name, c.value)).map Prod.fst).mergeSort _ = _
  rw [List.map_map]
  rfl

/-- The registry answers what was registered last under each name, and a store over it has its
constants. -/
structure Reflects (r : Registry α) (rs : List (Registration α)) : Prop where
  constants_distinct : (r.constants.map Constant.name).Nodup
  constants_ordered : r.constants.Pairwise (LastBefore Constant.name (constantsOf rs))
  mem_constants_iff : ∀ c, c ∈ r.constants ↔ LastOf Constant.name (constantsOf rs) c
  constant?_eq_some_iff : ∀ name c,
    r.constant? name = some c ↔ LastOf Constant.name (constantsOf rs) c ∧ c.name = name
  function?_eq_some_iff : ∀ name f,
    r.function? name = some f ↔ LastOf Function.key (functionsOf rs) f ∧ f.key = Text.lower name
  functionNames_increasing : ∀ category, (r.functionNames category).Pairwise (· < ·)
  mem_functionNames_iff : ∀ category name, name ∈ r.functionNames category ↔
    ∃ f, LastOf Function.key (functionsOf rs) f ∧ (∀ wanted ∈ category, f.category = wanted) ∧
      f.name = name
  value_eq_ok_iff : ∀ name x,
    (Store.ofRegistry r).value name = .ok x ↔ ∃ c, r.constant? name = some c ∧ c.value = x
  builtinNames_increasing : (Store.ofRegistry r).builtinNames.Pairwise (· < ·)
  builtinNames_perm : (Store.ofRegistry r).builtinNames.Perm (r.constants.map Constant.name)

/-- After any registrations both tables and the store hold what was registered last. -/
theorem ofRegistrations_reflects (rs : List (Registration α)) : (ofRegistrations rs).Reflects rs := by
  have h := records_ofRegistrations rs
  have hnodup := h.constants.nodup
  exact
    { constants_distinct := hnodup
      constants_ordered := h.constants.ordered
      mem_constants_iff := h.constants.mem_iff
      constant?_eq_some_iff := fun _ _ => h.constant?_eq_some_iff
      function?_eq_some_iff := fun _ _ => h.function?_eq_some_iff
      functionNames_increasing := h.functionNames_increasing
      mem_functionNames_iff := fun _ _ => h.mem_functionNames_iff
      value_eq_ok_iff := fun _ _ => value_ofRegistry_eq_ok_iff
      builtinNames_increasing := builtinNames_ofRegistry _ ▸ increasing_mergeSort hnodup
      builtinNames_perm := builtinNames_ofRegistry _ ▸ List.mergeSort_perm _ _ }

/-- A constant that is registered again moves to the end. -/
example : (ofRegistrations [.constant ⟨"pi", 3, none, "", ""⟩, .constant ⟨"e", 2, none, "", ""⟩,
    .constant ⟨"pi", 4, none, "", ""⟩] : Registry Nat).constants =
    [⟨"e", 2, none, "", ""⟩, ⟨"pi", 4, none, "", ""⟩] := by decide

end Registry

end Reckoner
