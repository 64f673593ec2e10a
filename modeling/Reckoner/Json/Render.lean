import Reckoner.Decimal.Layout
import Reckoner.Json

/-!
# JSON text

Values on one line without spaces, the keys of objects sorted.
-/

namespace Reckoner.Json

def hexDigit (n : Nat) : Char := (Nat.digitChar n)

/-- The spelling of one character in a JSON string. -/
def escapeChar (c : Char) : List Char :=
  if c = '"' then ['\\', '"']
  else if c = '\\' then ['\\', '\\']
  else if c = '\n' then ['\\', 'n']
  else if c = '\r' then ['\\', 'r']
  else if c = '\t' then ['\\', 't']
  else if c = '\x08' then ['\\', 'b']
  else if c = '\x0c' then ['\\', 'f']
  else if c.toNat < 0x20 then ['\\', 'u', '0', '0', hexDigit (c.toNat / 16), hexDigit (c.toNat % 16)]
  else [c]

def renderString (s : String) : String :=
  "\"" ++ String.ofList (s.toList.flatMap escapeChar) ++ "\""

def renderFloat (x : Float) : String :=
  if x.isFinite then Decimal.Layout.data.text x else "null"

/-- Texts of fields in the order of their keys. -/
def joinFields (fields : List (String × String)) : String :=
  let sorted := fields.mergeSort fun a b => decide (a.1 ≤ b.1)
  ",".intercalate (sorted.map fun field => renderString field.1 ++ ":" ++ field.2)

mutual

def render : Json → String
  | null => "null"
  | bool b => if b then "true" else "false"
  | int n => toString n
  | float x => renderFloat x
  | str s => renderString s
  | arr items => "[" ++ ",".intercalate (renderItems items) ++ "]"
  | obj fields => "\x7b" ++ joinFields (renderFields fields) ++ "\x7d"

def renderItems : List Json → List String
  | [] => []
  | item :: rest => render item :: renderItems rest

def renderFields : List (String × Json) → List (String × String)
  | [] => []
  | (key, value) :: rest => (key, render value) :: renderFields rest

end

end Reckoner.Json
