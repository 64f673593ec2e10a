import Reckoner.Proofs.Session

/-!
# Histories of sessions

What a session holds after any run of operations. Some operations fail part-way, and some compute
what they write from what was written before. All the same each of them writes one variable, or
drops some, or does nothing, and so the user variables are what was written last under each name and
not dropped since. The constants of the registry stay what they are below them.
-/

namespace Reckoner

/-- What a session is asked to do. -/
inductive Operation where
  | define (name source : String)
  | line (text : String)
  /-- A variable with its expression and its markup, where they are known. -/
  | set (v : Variable Float)
  | setValue (name : String) (value : Float)
  | remove (name : String)
  | clear
  | evaluate (source : String)

namespace Operation

/-- The session afterwards. After a failure it is the session before. -/
def apply (c : Calculator) : Operation → Calculator
  | define name source => (c.assign name source).2
  | line text => (c.evaluateLine text).2
  | set v => (c.store.set v).toOption.elim c fun store => { c with store := store }
  | setValue name value => (c.setVariable name value).toOption.getD c
  | remove name => c.removeVariable name
  | clear => c.clearVariables
  | evaluate _ => c

/-- The operation succeeds and writes the variable. -/
inductive Writes (c : Calculator) : Operation → Variable Float → Prop where
  | define {name source : String} {result : Evaluated} (h : (c.assign name source).1 = .ok result) :
      Writes c (define name source) ⟨name, result.value, some (Text.trim source), some result.markup⟩
  | line {text name source : String} {result : Evaluated} (assigns : Assigns text name source)
      (h : (c.assign name source).1 = .ok result) :
      Writes c (line text) ⟨name, result.value, some (Text.trim source), some result.markup⟩
  | set {v : Variable Float} {store : Store Float} (h : c.store.set v = .ok store) : Writes c (set v) v
  | setValue {name : String} {value : Float} {after : Calculator}
      (h : c.setVariable name value = .ok after) : Writes c (setValue name value) (.ofValue name value)

/-- The operation drops the variable of the name. -/
inductive Drops : Operation → String → Prop where
  | remove (name : String) : Drops (remove name) name
  | clear (name : String) : Drops clear name

/-- An operation writes a variable in the place of the one of its name, or it drops some variables
and writes none. -/
inductive Acts (c : Calculator) (op : Operation) (after : Store Float) : Prop where
  | writes (v : Variable Float) (name_ne : v.name ≠ "") (writes_iff : ∀ w, op.Writes c w ↔ w = v)
      (not_drops : ∀ name, ¬ op.Drops name) (replaces : c.store.Replaces after v)
  | drops (not_writes : ∀ v, ¬ op.Writes c v) (builtins_eq : after.builtins = c.store.builtins)
      (dropped : ∀ name, op.Drops name → after.find? name = none)
      (kept : ∀ name, ¬ op.Drops name → after.find? name = c.store.find? name)

def Touches (c : Calculator) (op : Operation) (name : String) : Prop :=
  op.Drops name ∨ ∃ v, op.Writes c v ∧ v.name = name

variable {c : Calculator} {op : Operation}

theorem Acts.nothing {after : Store Float} (not_writes : ∀ v, ¬ op.Writes c v)
    (not_drops : ∀ name, ¬ op.Drops name) (h : after = c.store) : op.Acts c after :=
  .drops not_writes (h ▸ rfl) (fun name hdrops => absurd hdrops (not_drops name)) fun _ _ => h ▸ rfl

theorem define_acts (c : Calculator) (name source : String) :
    (define name source).Acts c ((define name source).apply c).store := by
  obtain ⟨-, h⟩ | ⟨failure, -, -, h⟩ | ⟨result, store, hname, -, hreplaces, h⟩ :=
    c.assign_cases name source
  · refine .nothing ?_ nofun (by rw [apply, h])
    rintro _ ⟨hwrites⟩
    rw [h] at hwrites
    cases hwrites
  · refine .nothing ?_ nofun (by rw [apply, h])
    rintro _ ⟨hwrites⟩
    rw [h] at hwrites
    cases hwrites
  · refine .writes ⟨name, result.value, some (Text.trim source), some result.markup⟩ ?_ ?_ nofun ?_
    · rintro rfl
      exact not_isSingleName_empty hname
    · intro w
      constructor
      · rintro ⟨hwrites⟩
        rw [h] at hwrites
        cases hwrites
        rfl
      · rintro rfl
        exact .define (by rw [h])
    · rw [apply, h]
      exact hreplaces

theorem Acts.congr {op' : Operation} {after : Store Float} (acts : op.Acts c after)
    (hwrites : ∀ v, op'.Writes c v ↔ op.Writes c v) (hdrops : ∀ name, op'.Drops name ↔ op.Drops name) :
    op'.Acts c after := by
  cases acts with
  | writes v name_ne writes_iff not_drops replaces =>
    exact .writes v name_ne (fun w => (hwrites w).trans (writes_iff w))
      (fun name h => not_drops name ((hdrops name).mp h)) replaces
  | drops not_writes builtins_eq dropped kept =>
    exact .drops (fun v h => not_writes v ((hwrites v).mp h)) builtins_eq
      (fun name h => dropped name ((hdrops name).mp h))
      fun name h => kept name fun hdrop => h ((hdrops name).mpr hdrop)

theorem line_acts (c : Calculator) (text : String) :
    (line text).Acts c ((line text).apply c).store := by
  by_cases hassigns : ∃ name source, Assigns text name source
  · obtain ⟨name, source, h⟩ := hassigns
    rw [apply, (c.evaluateLine_of_assigns h).1]
    refine (define_acts c name source).congr ?_ fun _ => ⟨nofun, nofun⟩
    intro v
    constructor
    · intro hwrites
      cases hwrites with
      | line h' hanswer =>
        -- A line has one reading as an assignment.
        have hsplit := Calculator.splitAssignment?_eq_some_iff.mpr h
        rw [Calculator.splitAssignment?_eq_some_iff.mpr h'] at hsplit
        cases hsplit
        exact .define hanswer
    · intro hwrites
      cases hwrites with
      | define hanswer => exact .line h hanswer
  · have h : ∀ name source, ¬ Assigns text name source := fun name source h =>
      hassigns ⟨name, source, h⟩
    refine .nothing ?_ nofun (by rw [apply, (c.evaluateLine_of_not_assigns h).1])
    intro v hwrites
    cases hwrites with
    | line h' hanswer => exact h _ _ h'

theorem acts_of_set {v : Variable Float} {after : Store Float}
    (hwrites : ∀ w, op.Writes c w ↔ w = v ∧ ∃ store, c.store.set v = .ok store)
    (hdrops : ∀ name, ¬ op.Drops name)
    (hafter : after = (c.store.set v).toOption.getD c.store) : op.Acts c after := by
  cases hset : c.store.set v with
  | error failure =>
    rw [hset] at hafter
    refine .nothing (fun w h => ?_) hdrops hafter
    obtain ⟨-, store, hstore⟩ := (hwrites w).mp h
    rw [hset] at hstore
    cases hstore
  | ok store =>
    rw [hset] at hafter
    have hname := Store.name_ne_empty_of_set hset
    obtain ⟨store', hset', hreplaces⟩ := c.store.exists_set_eq_ok
      (v := v) (by rw [← Bool.not_eq_true, String.isEmpty_iff]; exact hname)
    cases hset.symm.trans hset'
    refine .writes v hname (fun w => (hwrites w).trans ?_) hdrops (hafter ▸ hreplaces)
    exact and_iff_left ⟨store, hset⟩

theorem set_acts (c : Calculator) (v : Variable Float) :
    (set v).Acts c ((set v).apply c).store := by
  refine acts_of_set (v := v) ?_ nofun ?_
  · intro w
    constructor
    · intro hwrites
      cases hwrites with
      | set hset => exact ⟨rfl, _, hset⟩
    · rintro ⟨rfl, store, hset⟩
      exact .set hset
  · rw [apply]
    cases c.store.set v <;> rfl

theorem setValue_acts (c : Calculator) (name : String) (value : Float) :
    (setValue name value).Acts c ((setValue name value).apply c).store := by
  refine acts_of_set (v := .ofValue name value) ?_ nofun ?_
  · intro w
    constructor
    · intro hwrites
      cases hwrites with
      | setValue hset =>
        obtain ⟨store, hstore, -⟩ := Answer.bind_eq_ok_iff.mp hset
        exact ⟨rfl, store, hstore⟩
    · rintro ⟨rfl, store, hset⟩
      exact .setValue (Answer.bind_eq_ok_iff.mpr ⟨store, hset, rfl⟩)
  · rw [apply, Calculator.setVariable]
    cases c.store.set (.ofValue name value) <;> rfl

/-- The step lemma, one case for each operation. -/
theorem apply_acts (c : Calculator) (op : Operation) : op.Acts c (op.apply c).store := by
  cases op with
  | define name source => exact define_acts c name source
  | line text => exact line_acts c text
  | set v => exact set_acts c v
  | setValue name value => exact setValue_acts c name value
  | remove dropped =>
    refine .drops nofun rfl ?_ ?_
    · rintro _ ⟨⟩
      exact (c.store.find?_remove dropped dropped).trans (if_pos rfl)
    · intro name hkept
      refine (c.store.find?_remove dropped name).trans (if_neg ?_)
      rintro rfl
      exact hkept (.remove _)
  | clear =>
    refine .drops nofun rfl (fun name _ => c.store.find?_clear name) fun name hkept => ?_
    exact absurd (.clear name) hkept
  | evaluate source => exact .nothing nofun nofun rfl

theorem touches_iff_of_writes {w : Variable Float} (writes_iff : ∀ u, op.Writes c u ↔ u = w)
    (not_drops : ∀ name, ¬ op.Drops name) (name : String) : op.Touches c name ↔ w.name = name := by
  constructor
  · rintro (hdrops | ⟨u, hwrites, rfl⟩)
    · exact absurd hdrops (not_drops name)
    · rw [(writes_iff u).mp hwrites]
  · rintro rfl
    exact .inr ⟨w, (writes_iff w).mpr rfl, rfl⟩

theorem touches_iff_of_not_writes (not_writes : ∀ v, ¬ op.Writes c v) (name : String) :
    op.Touches c name ↔ op.Drops name := by
  refine or_iff_left ?_
  rintro ⟨u, hwrites, -⟩
  exact not_writes u hwrites

theorem Acts.find?_eq_some_iff {after : Store Float} (acts : op.Acts c after) (name : String)
    (v : Variable Float) :
    after.find? name = some v ↔
      op.Writes c v ∧ v.name = name ∨ c.store.find? name = some v ∧ ¬ op.Touches c name := by
  cases acts with
  | writes w name_ne writes_iff not_drops replaces =>
    rw [replaces.find?_eq, touches_iff_of_writes writes_iff not_drops, writes_iff]
    split
    · rename_i hname
      constructor
      · rintro ⟨⟩
        exact .inl ⟨rfl, hname.symm⟩
      · rintro (⟨rfl, -⟩ | ⟨-, hother⟩)
        · rfl
        · exact absurd hname.symm hother
    · rename_i hname
      constructor
      · intro hfind
        exact .inr ⟨hfind, fun h => hname h.symm⟩
      · rintro (⟨rfl, h⟩ | ⟨hfind, -⟩)
        · exact absurd h.symm hname
        · exact hfind
  | drops not_writes builtins_eq dropped kept =>
    rw [touches_iff_of_not_writes not_writes]
    by_cases hdrops : op.Drops name
    · rw [dropped name hdrops]
      simp [not_writes, hdrops]
    · rw [kept name hdrops]
      simp [not_writes, hdrops]

theorem Acts.builtins_eq {after : Store Float} (acts : op.Acts c after) :
    after.builtins = c.store.builtins := by
  cases acts with
  | writes w name_ne writes_iff not_drops replaces => exact replaces.builtins_eq
  | drops not_writes builtins_eq dropped kept => exact builtins_eq

theorem Writes.name_ne_empty {v : Variable Float} (h : op.Writes c v) : v.name ≠ "" := by
  cases op.apply_acts c with
  | writes w name_ne writes_iff not_drops replaces =>
    rw [(writes_iff v).mp h]
    exact name_ne
  | drops not_writes builtins_eq dropped kept => exact absurd h (not_writes v)

end Operation

/-- An operation with the session of which it is asked. -/
structure Step where
  before : Calculator
  operation : Operation

/-- What the steps wrote last under a name and did not drop later. -/
def LastWritten (steps : List Step) (name : String) (v : Variable Float) : Prop :=
  ∃ earlier step later, steps = earlier ++ step :: later ∧ step.operation.Writes step.before v ∧
    v.name = name ∧ ∀ s ∈ later, ¬ s.operation.Touches s.before name

theorem LastWritten.named {steps : List Step} {name : String} {v : Variable Float}
    (h : LastWritten steps name v) : v.name = name ∧ name ≠ "" := by
  obtain ⟨-, step, -, -, hwrites, rfl, -⟩ := h
  exact ⟨rfl, hwrites.name_ne_empty⟩

theorem not_lastWritten_nil (name : String) (v : Variable Float) : ¬ LastWritten [] name v := by
  rintro ⟨earlier, step, later, h, -⟩
  cases earlier <;> cases h

theorem lastWritten_cons_iff {step : Step} {steps : List Step} {name : String} {v : Variable Float} :
    LastWritten (step :: steps) name v ↔
      LastWritten steps name v ∨
        (step.operation.Writes step.before v ∧ v.name = name) ∧
          ∀ s ∈ steps, ¬ s.operation.Touches s.before name := by
  constructor
  · rintro ⟨earlier, last, later, h, hwrites, hname, huntouched⟩
    cases earlier with
    | nil =>
      cases h
      exact .inr ⟨⟨hwrites, hname⟩, huntouched⟩
    | cons first earlier =>
      cases h
      exact .inl ⟨earlier, last, later, rfl, hwrites, hname, huntouched⟩
  · rintro (⟨earlier, last, later, rfl, hlast⟩ | ⟨⟨hwrites, hname⟩, huntouched⟩)
    · exact ⟨step :: earlier, last, later, rfl, hlast⟩
    · exact ⟨[], step, steps, rfl, hwrites, hname, huntouched⟩

namespace Calculator

def run (c : Calculator) : List Operation → Calculator
  | [] => c
  | op :: rest => run (op.apply c) rest

/-- Each of some operations with the session that it comes to. -/
def steps (c : Calculator) : List Operation → List Step
  | [] => []
  | op :: rest => ⟨c, op⟩ :: steps (op.apply c) rest

theorem builtins_run (c : Calculator) (ops : List Operation) :
    (c.run ops).store.builtins = c.store.builtins := by
  induction ops generalizing c with
  | nil => rfl
  | cons op rest ih => exact (ih (op.apply c)).trans (op.apply_acts c).builtins_eq

/-- The run lemma: a user variable was written last under its name, or it was there from the start and
no operation has touched its name. -/
theorem find?_run_eq_some_iff (c : Calculator) (ops : List Operation) (name : String)
    (v : Variable Float) :
    (c.run ops).store.find? name = some v ↔
      LastWritten (c.steps ops) name v ∨
        c.store.find? name = some v ∧ ∀ s ∈ c.steps ops, ¬ s.operation.Touches s.before name := by
  induction ops generalizing c with
  | nil =>
    constructor
    · intro h
      exact .inr ⟨h, nofun⟩
    · rintro (h | ⟨h, -⟩)
      · exact absurd h (not_lastWritten_nil name v)
      · exact h
  | cons op rest ih =>
    rw [run, ih, (op.apply_acts c).find?_eq_some_iff, steps, lastWritten_cons_iff,
      List.forall_mem_cons]
    simp only [or_and_right, or_assoc, and_assoc]

end Calculator

/-- The store holds what was written over the constants of a registry. -/
structure Store.Holds (s : Store Float) (registry : Registry Float)
    (written : String → Variable Float → Prop) : Prop where
  find?_eq_some_iff : ∀ name v, s.find? name = some v ↔ written name v
  named : ∀ name v, s.find? name = some v → v.name = name ∧ name ≠ ""
  ordered : Variable.Ordered s.user
  mem_user_iff : ∀ v, v ∈ s.user ↔ s.find? v.name = some v
  value_of_find? : ∀ name v, s.find? name = some v → s.value name = .ok v.value
  value_of_none : ∀ name, s.find? name = none → s.value name = Store.constantValue registry name
  exists_value_iff : ∀ name, (∃ x, s.value name = .ok x) ↔ s.has name = true
  builtins_eq : s.builtins = registry.constants.map fun c => (c.name, c.value)
  value_remove : ∀ name, (s.remove name).value name = Store.constantValue registry name

/-- After any operations a session that started with the constants of a registry holds what was
written last, over those constants. -/
theorem Calculator.run_holds (registry : Registry Float) (solver : SolverConfig Float)
    (schedules : ScheduleConfig Float) (ops : List Operation) :
    ((Calculator.mk registry (.ofRegistry registry) solver schedules).run ops).store.Holds registry
      (LastWritten ((Calculator.mk registry (.ofRegistry registry) solver schedules).steps ops)) := by
  generalize hstart : Calculator.mk registry (.ofRegistry registry) solver schedules = start
  have hstore : start.store = .ofRegistry registry := by rw [← hstart]
  have hbuiltins : (start.run ops).store.builtins = (Store.ofRegistry registry).builtins := by
    rw [start.builtins_run, hstore]
  have hfind (name : String) (v : Variable Float) :
      (start.run ops).store.find? name = some v ↔ LastWritten (start.steps ops) name v := by
    have hempty : start.store.find? name = none := by
      rw [hstore]
      rfl
    rw [start.find?_run_eq_some_iff, hempty]
    exact or_iff_left fun h => nomatch h.1
  exact
    { find?_eq_some_iff := hfind
      named := fun name v h => ((hfind name v).mp h).named
      ordered := (start.run ops).store.ordered
      mem_user_iff := fun v => by rw [Store.find?_eq_some_iff, and_iff_left rfl]
      value_of_find? := fun name v h => Store.value_of_find? h
      value_of_none := fun name h => Store.value_eq_constantValue hbuiltins h
      exists_value_iff := fun name => Store.exists_value_eq_ok_iff _ name
      builtins_eq := hbuiltins
      value_remove := fun name => Store.value_eq_constantValue hbuiltins
        ((Store.find?_remove _ name name).trans (if_pos rfl)) }

end Reckoner
