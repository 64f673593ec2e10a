/-!
# Tokens

What an expression is read as before its structure is known.
-/

namespace Reckoner

/-- The kind of a token, with what it carries. -/
inductive Lexeme (α : Type) where
  | number (value : α)
  | identifier (name : String)
  /-- Of the symbols in a source, one of `+ - * / ^ !`. -/
  | operator (symbol : Char)
  | leftParen
  | rightParen
  | comma
deriving DecidableEq, Repr

/-- A lexeme and the number of characters before it in the source. -/
structure Token (α : Type) where
  kind : Lexeme α
  offset : Nat
deriving DecidableEq, Repr

namespace Token

variable {α : Type}

def isOperator (t : Token α) (symbol : Char) : Bool :=
  match t.kind with
  | .operator c => c == symbol
  | _ => false

end Token

end Reckoner
