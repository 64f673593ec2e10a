/-!
# JSON values

The value form of stored data. Whole numbers and doubles are told apart, because a count is never
read from a double.
-/

namespace Reckoner

inductive Json where
  | null
  | bool (b : Bool)
  | int (n : Int)
  | float (x : Float)
  | str (s : String)
  | arr (items : List Json)
  | obj (fields : List (String × Json))

namespace Json

/-- A double as JSON. There are no numbers for what is infinite or undefined. -/
def ofFloat (x : Float) : Json := if x.isFinite then float x else null

def ofNat (n : Nat) : Json := int n

/-- A value or nothing, written `null`. -/
def ofOption {β : Type} (encode : β → Json) : Option β → Json
  | some x => encode x
  | none => null

/-- A field that is left out when there is nothing to write. -/
def field? {β : Type} (key : String) (encode : β → Json) : Option β → List (String × Json)
  | some x => [(key, encode x)]
  | none => []

def str? : Json → Option String
  | str s => some s
  | _ => none

def bool? : Json → Option Bool
  | bool b => some b
  | _ => none

/-- Any number, as a double. -/
def float? : Json → Option Float
  | int n => some (Float.ofInt n)
  | float x => some x
  | _ => none

/-- A whole number that is not negative. -/
def nat? : Json → Option Nat
  | int n => if 0 ≤ n then some n.toNat else none
  | _ => none

/-- A text of one character. -/
def char? : Json → Option Char
  | str s =>
    match s.toList with
    | [c] => some c
    | _ => none
  | _ => none

/-- Nothing from `null`, and otherwise a value. -/
def optional? {β : Type} (decode : Json → Option β) : Json → Option (Option β)
  | null => some none
  | j => (decode j).map some

def list? {β : Type} (decode : Json → Option β) : Json → Option (List β)
  | arr items => items.mapM decode
  | _ => none

/-- A choice among named alternatives: its name and what it carries. -/
def variant? : Json → Option (String × Option Json)
  | str tag => some (tag, none)
  | obj [(tag, payload)] => some (tag, some payload)
  | _ => none

/-- One of several names, bare or as a tag over `null`. -/
def enum? {β : Type} (all : List β) (name : β → String) (j : Json) : Option β :=
  match variant? j with
  | some (tag, none) | some (tag, some null) => all.find? fun x => name x == tag
  | _ => none

end Json

end Reckoner
