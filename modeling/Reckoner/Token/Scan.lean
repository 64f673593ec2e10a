import Reckoner.Decimal.Numeral
import Reckoner.Failure
import Reckoner.Text.Blank
import Reckoner.Text.Letters

/-!
# Reading tokens

`tokenize` splits a source into tokens and skips blanks between them. Each token is the longest one
that starts at its place. Offsets count characters, so that they also fit sources beyond ASCII.
-/

namespace Reckoner

namespace Lexeme

/-- The operator that a character stands for. Keypad glyphs are other spellings. -/
def operatorSymbol? (c : Char) : Option Char :=
  if c = '+' ∨ c = '-' ∨ c = '*' ∨ c = '/' ∨ c = '^' ∨ c = '!' then some c
  else if c = '×' ∨ c = '·' then some '*'
  else if c = '÷' then some '/'
  else if c = '−' then some '-'
  else none

def isNameStart (c : Char) : Bool := Text.isAlphabetic c || c == '_'

def isNamePart (c : Char) : Bool := Text.isAlphanumeric c || c == '_'

/-- How many digits a text starts with. -/
def digitRun (cs : List Char) : Nat := (cs.takeWhile Char.isDigit).length

/-- The length of the exponent part at the start of a text. Without digits there is none. -/
def exponentRun : List Char → Nat
  | [] => 0
  | mark :: rest =>
    if mark = 'e' ∨ mark = 'E' then
      match rest with
      | [] => 0
      | c :: ds =>
        if c = '+' ∨ c = '-' then (if digitRun ds = 0 then 0 else 2 + digitRun ds)
        else if digitRun rest = 0 then 0 else 1 + digitRun rest
    else 0

/-- The length of the fraction at the start of a text: a point and any digits after it. -/
def fractionRun : List Char → Nat
  | '.' :: rest => 1 + digitRun rest
  | _ => 0

/-- The length of the numeral at the start of a text: digits, one optional fraction and an exponent
only when digits follow its mark. -/
def numeralRun (cs : List Char) : Nat :=
  let whole := digitRun cs
  let fraction := fractionRun (cs.drop whole)
  whole + fraction + exponentRun (cs.drop (whole + fraction))

/-- A numeral starts with a digit, or with a point that a digit follows. -/
def startsNumeral (c : Char) (rest : List Char) : Bool :=
  c.isDigit || (c == '.' && (rest.head?.map Char.isDigit).getD false)

/-- The token that starts with `c`, and how many of the characters after `c` belong to it. -/
def read (c : Char) (rest : List Char) : Except (Malformed Float) (Lexeme Float × Nat) :=
  if startsNumeral c rest then
    let run := numeralRun (c :: rest)
    let text := (c :: rest).take run
    match Decimal.ofNumeral? text with
    | some d => .ok (number d.toFloat, run - 1)
    | none => .error (.invalidNumber (String.ofList text))
  else if isNameStart c then
    let more := rest.takeWhile isNamePart
    .ok (identifier (String.ofList (c :: more)), more.length)
  else if c = '(' then .ok (leftParen, 0)
  else if c = ')' then .ok (rightParen, 0)
  else if c = ',' then .ok (comma, 0)
  else match operatorSymbol? c with
    | some symbol => .ok (operator symbol, 0)
    | none => .error (.unexpectedCharacter c)

end Lexeme

/-- The tokens of the characters that stand after `offset` others. -/
def tokenizeFrom (offset : Nat) : List Char → Answer Float (List (Token Float))
  | [] => .ok []
  | c :: rest =>
    if Text.isBlank c then tokenizeFrom (offset + 1) rest
    else match Lexeme.read c rest with
      | .error why => .error ((Cause.malformed why).at offset)
      | .ok (kind, more) =>
        match tokenizeFrom (offset + 1 + more) (rest.drop more) with
        | .error failure => .error failure
        | .ok tokens => .ok (⟨kind, offset⟩ :: tokens)
termination_by cs => cs.length
decreasing_by all_goals simp only [List.length_cons, List.length_drop]; omega

/-- The tokens of a source, in order. -/
def tokenize (source : String) : Answer Float (List (Token Float)) :=
  tokenizeFrom 0 source.toList

/-- The text is a single name. -/
def isName (text : String) : Bool :=
  match tokenize text with
  | .ok [⟨.identifier _, _⟩] => true
  | _ => false

end Reckoner
