import Reckoner.Function
import Reckoner.Limits
import Reckoner.Text.Lowercase
import Reckoner.Text.Search

/-!
# The registry

The table of functions and constants that expressions are read against. Function names are matched
in lower case, names of constants exactly. A later registration under the same name replaces an
earlier one.
-/

namespace Reckoner

structure Registry (α : Type) where
  /-- Functions under the lower case of their names. -/
  functions : List (String × Function α)
  /-- In order of their last registration. -/
  constants : List (Constant α)

namespace Registry

variable {α : Type}

def empty : Registry α := ⟨[], []⟩

def withFunction (r : Registry α) (f : Function α) : Registry α :=
  let key := Text.lower f.name
  { r with functions := r.functions.filter (fun entry => entry.1 != key) ++ [(key, f)] }

def withConstant (r : Registry α) (c : Constant α) : Registry α :=
  { r with constants := r.constants.filter (fun d => d.name != c.name) ++ [c] }

def withFunctions (r : Registry α) (fs : List (Function α)) : Registry α :=
  fs.foldl withFunction r

def withConstants (r : Registry α) (cs : List (Constant α)) : Registry α :=
  cs.foldl withConstant r

/-- Every function was registered by the list or was there before. -/
theorem mem_of_mem_withFunctions {r : Registry α} {fs : List (Function α)}
    {entry : String × Function α} (h : entry ∈ (r.withFunctions fs).functions) :
    entry ∈ r.functions ∨ entry.2 ∈ fs := by
  induction fs generalizing r with
  | nil => exact .inl h
  | cons f rest ih =>
    obtain hr | hrest := ih h
    · obtain hold | hnew := List.mem_append.mp hr
      · exact .inl (List.mem_filter.mp hold).1
      · obtain rfl := List.mem_singleton.mp hnew
        exact .inr List.mem_cons_self
    · exact .inr (List.mem_cons_of_mem f hrest)

@[simp] theorem functions_withConstants (r : Registry α) (cs : List (Constant α)) :
    (r.withConstants cs).functions = r.functions := by
  induction cs generalizing r with
  | nil => rfl
  | cons c rest ih => exact ih (r.withConstant c)

def function? (r : Registry α) (name : String) : Option (Function α) :=
  r.functions.lookup (Text.lower name)

theorem mem_of_function?_eq_some {r : Registry α} {name : String} {f : Function α}
    (h : r.function? name = some f) : (Text.lower name, f) ∈ r.functions := by
  obtain ⟨before, after, heq, -⟩ := List.lookup_eq_some_iff.mp h
  simp [heq]

def hasFunction (r : Registry α) (name : String) : Bool := (r.function? name).isSome

def constant? (r : Registry α) (name : String) : Option (Constant α) :=
  r.constants.find? fun c => c.name == name

/-- The names of all functions, or of those in one category, sorted. -/
def functionNames (r : Registry α) (category : Option String) : List String :=
  let chosen := r.functions.filter fun entry =>
    match category with
    | some c => entry.2.category == c
    | none => true
  (chosen.map fun entry => entry.2.name).mergeSort fun a b => decide (a ≤ b)

/-- How much a registered name looks like the one asked for. Containment counts most, then common
characters, then a similar length in bytes. -/
def similarity (query candidate : String) : Nat :=
  let containment :=
    if Text.startsWith candidate query then 100
    else if Text.contains candidate query then 50
    else if Text.contains query candidate then 30
    else 0
  let shared := (query.toList.eraseDups.filter candidate.toList.contains).length
  let score := containment + 2 * shared
  let a := query.utf8ByteSize
  let b := candidate.utf8ByteSize
  let gap := (a - b) + (b - a)
  if gap < 5 ∧ 0 < score then score + (5 - gap) else score

/-- The lower-case names of registered functions that look like `name`, the most similar first and
alphabetically among equals. -/
def similarNames (r : Registry α) (name : String) : List String :=
  let query := Text.lower name
  let scored := r.functions.map fun entry => (entry.1, similarity query entry.1)
  let close := scored.filter fun entry => 10 < entry.2
  let ranked := close.mergeSort fun a b => b.2 < a.2 || (b.2 == a.2 && decide (a.1 ≤ b.1))
  ranked.map Prod.fst

/-- Why a call of an unregistered name fails, with a few similar names. -/
def undefinedFunction (r : Registry α) (name : String) : Cause α :=
  .undefinedFunction name ((r.similarNames name).take maxSimilar)

def call (r : Registry α) (name : String) (args : List α) : Answer α α :=
  match r.function? name with
  | some f => f.apply args
  | none => (r.undefinedFunction name).throw

end Registry

end Reckoner
