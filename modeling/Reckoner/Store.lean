import Reckoner.Registry
import Reckoner.Variable

/-!
# The variable store

Names and values of one session. Constants are there from the start and never change; user variables
hide them, the last write wins, and they are listed by name.
-/

namespace Reckoner

/-- Variables in strictly increasing order of their names. -/
def Variable.Ordered {α : Type} (vs : List (Variable α)) : Prop :=
  vs.Pairwise fun v w => v.name < w.name

structure Store (α : Type) where
  builtins : List (String × α)
  user : List (Variable α)
  ordered : Variable.Ordered user

namespace Store

variable {α : Type}

def empty : Store α := ⟨[], [], .nil⟩

/-- A store with the constants of a registry. -/
def ofRegistry (r : Registry α) : Store α :=
  ⟨r.constants.map fun c => (c.name, c.value), [], .nil⟩

/-- Puts a variable at its place, over any other of its name. -/
def insertSorted (v : Variable α) : List (Variable α) → List (Variable α)
  | [] => [v]
  | w :: rest =>
    if v.name < w.name then v :: w :: rest
    else if v.name = w.name then v :: rest
    else w :: insertSorted v rest

theorem mem_insertSorted {v u : Variable α} {vs : List (Variable α)}
    (h : u ∈ insertSorted v vs) : u = v ∨ u ∈ vs := by
  induction vs with
  | nil => simpa [insertSorted] using h
  | cons w rest ih =>
    unfold insertSorted at h
    split at h
    · simpa using h
    · split at h
      · rcases List.mem_cons.mp h with h | h
        · exact .inl h
        · exact .inr (List.mem_cons_of_mem _ h)
      · rcases List.mem_cons.mp h with h | h
        · exact .inr (h ▸ List.mem_cons_self)
        · exact (ih h).imp id (List.mem_cons_of_mem _)

theorem ordered_insertSorted (v : Variable α) {vs : List (Variable α)} (h : Variable.Ordered vs) :
    Variable.Ordered (insertSorted v vs) := by
  induction vs with
  | nil => simp [insertSorted, Variable.Ordered]
  | cons w rest ih =>
    have hw := (List.pairwise_cons.mp h).1
    have hrest := (List.pairwise_cons.mp h).2
    unfold insertSorted
    split
    · rename_i hlt
      refine List.pairwise_cons.mpr ⟨fun u hu => ?_, h⟩
      rcases List.mem_cons.mp hu with rfl | hu
      · exact hlt
      · exact String.lt_trans hlt (hw u hu)
    · split
      · rename_i heq
        exact List.pairwise_cons.mpr ⟨fun u hu => heq ▸ hw u hu, hrest⟩
      · rename_i hlt heq
        refine List.pairwise_cons.mpr ⟨fun u hu => ?_, ih hrest⟩
        rcases mem_insertSorted hu with rfl | hu
        · exact Std.lt_of_le_of_ne (String.not_lt.mp hlt) fun h => heq h.symm
        · exact hw u hu

/-- Writes a user variable under its own name, which must not be empty. -/
def set (s : Store α) (v : Variable α) : Answer α (Store α) :=
  if v.name.isEmpty then (Cause.invalidInput .emptyName).throw
  else .ok { s with user := insertSorted v s.user, ordered := ordered_insertSorted v s.ordered }

/-- The user variable of a name. -/
def find? (s : Store α) (name : String) : Option (Variable α) :=
  s.user.find? fun v => v.name == name

/-- The value a name has here: the user variable, or else the constant. -/
def value? (s : Store α) (name : String) : Option α :=
  match s.find? name with
  | some v => some v.value
  | none => s.builtins.lookup name

def value (s : Store α) (name : String) : Answer α α :=
  match s.value? name with
  | some x => .ok x
  | none => (Cause.undefinedVariable name).throw

def isBuiltin (s : Store α) (name : String) : Bool := (s.builtins.lookup name).isSome

def has (s : Store α) (name : String) : Bool := (s.find? name).isSome || s.isBuiltin name

/-- Drops a user variable; a constant that it hid shows again. -/
def remove (s : Store α) (name : String) : Store α :=
  { s with
    user := s.user.filter fun v => v.name != name
    ordered := s.ordered.filter _ }

/-- Drops all user variables. -/
def clear (s : Store α) : Store α := { s with user := [], ordered := .nil }

/-- The names of the constants, sorted. -/
def builtinNames (s : Store α) : List String :=
  (s.builtins.map Prod.fst).mergeSort fun a b => decide (a ≤ b)

end Store

end Reckoner
