import Reckoner.Store

/-!
# Scopes

Transient bindings over a store, for names that have a value only while part of an expression is
evaluated. The innermost binding wins.
-/

namespace Reckoner

structure Scope (α : Type) where
  store : Store α
  /-- Bindings, the innermost first. -/
  locals : List (String × α)

namespace Scope

variable {α : Type}

def ofStore (store : Store α) : Scope α := ⟨store, []⟩

def bind (s : Scope α) (name : String) (value : α) : Scope α :=
  { s with locals := (name, value) :: s.locals }

/-- Gives the innermost binding of a name a new value, if there is one. -/
def rebind? (name : String) (value : α) : List (String × α) → Option (List (String × α))
  | [] => none
  | (n, v) :: rest =>
    if n = name then some ((n, value) :: rest)
    else (rebind? name value rest).map fun rest => (n, v) :: rest

/-- Gives the innermost binding of a name a new value, or binds it. -/
def rebind (s : Scope α) (name : String) (value : α) : Scope α :=
  match rebind? name value s.locals with
  | some locals => { s with locals := locals }
  | none => s.bind name value

/-- Drops the innermost binding. -/
def unbind (s : Scope α) : Scope α := { s with locals := s.locals.tail }

def depth (s : Scope α) : Nat := s.locals.length

def value (s : Scope α) (name : String) : Answer α α :=
  match s.locals.lookup name with
  | some x => .ok x
  | none => s.store.value name

end Scope

end Reckoner
