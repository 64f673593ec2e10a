import Reckoner.Text.Unprintable

/-!
# Quoted text

A text between quotation marks on one line, in which quotation marks, backslashes, line controls and
unprintable characters are spelled with a backslash.
-/

namespace Reckoner.Text

/-- A code point in lower-case hexadecimal, without leading zeros. -/
def hexText (n : Nat) : String := String.ofList (Nat.toDigits 16 n)

/-- The spelling of one character between quotation marks. -/
def quoteChar (c : Char) : String :=
  if c = '\x00' then "\\0"
  else if c = '\t' then "\\t"
  else if c = '\r' then "\\r"
  else if c = '\n' then "\\n"
  else if c = '"' then "\\\""
  else if c = '\\' then "\\\\"
  else if isUnprintable c then "\\u\x7b" ++ hexText c.toNat ++ "\x7d"
  else String.singleton c

def quote (s : String) : String :=
  "\"" ++ String.join (s.toList.map quoteChar) ++ "\""

end Reckoner.Text
