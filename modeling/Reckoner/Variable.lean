/-!
# Variables
-/

namespace Reckoner

/-- A named value, with the expression that produced it and its typeset form where they are known. -/
structure Variable (α : Type) where
  name : String
  value : α
  expression : Option String
  markup : Option String
deriving DecidableEq, Repr

namespace Variable

variable {α : Type}

def ofValue (name : String) (value : α) : Variable α := ⟨name, value, none, none⟩

end Variable

end Reckoner
