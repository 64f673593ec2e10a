import Reckoner.Expr
import Reckoner.Json.Record
import Reckoner.Token

/-!
# Stored tokens and expressions
-/

namespace Reckoner

open Json

namespace Lexeme

def toJson : Lexeme Float → Json
  | number value => .obj [("Number", .ofFloat value)]
  | identifier name => .obj [("Identifier", .str name)]
  | operator symbol => .obj [("Operator", .str (String.singleton symbol))]
  | leftParen => .str "LeftParen"
  | rightParen => .str "RightParen"
  | comma => .str "Comma"

def ofJson? (j : Json) : Option (Lexeme Float) :=
  match variant? j with
  | some ("Number", some payload) => (float? payload).map number
  | some ("Identifier", some payload) => (str? payload).map identifier
  | some ("Operator", some payload) => (char? payload).map operator
  | some ("LeftParen", none) | some ("LeftParen", some .null) => some leftParen
  | some ("RightParen", none) | some ("RightParen", some .null) => some rightParen
  | some ("Comma", none) | some ("Comma", some .null) => some comma
  | _ => none

end Lexeme

namespace Token

def toJson (t : Token Float) : Json :=
  .obj [("kind", t.kind.toJson), ("offset", .ofNat t.offset)]

def ofJson? (j : Json) : Option (Token Float) := do
  let r ← record? ["kind", "offset"] j
  let kind ← r.required "kind" Lexeme.ofJson?
  let offset ← r.required "offset" nat?
  return ⟨kind, offset⟩

end Token

namespace BinaryOperator

def all : List BinaryOperator := [add, sub, mul, div, pow]

def tag : BinaryOperator → String
  | add => "Add"
  | sub => "Sub"
  | mul => "Mul"
  | div => "Div"
  | pow => "Pow"

def toJson (op : BinaryOperator) : Json := .str op.tag

def ofJson? (j : Json) : Option BinaryOperator := enum? all tag j

end BinaryOperator

namespace UnaryOperator

def toJson : UnaryOperator → Json
  | neg => .str "Neg"
  | factorial offset => .obj [("Factorial", .obj [("offset", .ofNat offset)])]

def ofJson? (j : Json) : Option UnaryOperator :=
  match variant? j with
  | some ("Neg", none) | some ("Neg", some .null) => some neg
  | some ("Factorial", some (.obj fields)) => ((fields.lookup "offset").bind nat?).map factorial
  | _ => none

end UnaryOperator

namespace Expr

mutual

def toJson : Expr Float → Json
  | literal value => .obj [("Literal", .ofFloat value)]
  | variableRef name offset =>
    .obj [("VariableRef", .obj [("name", .str name), ("offset", .ofNat offset)])]
  | unary op operand => .obj [("UnaryOp", .arr [op.toJson, toJson operand])]
  | binary op left right => .obj [("BinaryOp", .arr [op.toJson, toJson left, toJson right])]
  | call name args offset =>
    .obj [("FunctionCall",
      .obj [("name", .str name), ("args", .arr (toJsonEach args)), ("offset", .ofNat offset)])]

def toJsonEach : List (Expr Float) → List Json
  | [] => []
  | e :: rest => toJson e :: toJsonEach rest

end

/-- A tag over what an expression carries. -/
def tagged? (tag : String) (payload : Json) (parts : List (Option (Expr Float)))
    (args : Option (List (Expr Float))) : Option (Expr Float) :=
  match tag, payload, parts with
  | "Literal", payload, _ => (float? payload).map literal
  | "VariableRef", .obj fields, _ => do
    let name ← (fields.lookup "name").bind str?
    let offset ← (fields.lookup "offset").bind nat?
    return variableRef name offset
  | "UnaryOp", .arr (op :: _), [_, operand] => do
    let op ← UnaryOperator.ofJson? op
    let operand ← operand
    return unary op operand
  | "BinaryOp", .arr (op :: _), [_, left, right] => do
    let op ← BinaryOperator.ofJson? op
    let left ← left
    let right ← right
    return binary op left right
  | "FunctionCall", .obj fields, _ => do
    let name ← (fields.lookup "name").bind str?
    let args ← args
    let offset ← (fields.lookup "offset").bind nat?
    return call name args offset
  | _, _, _ => none

mutual

/-- Reads an expression. Everything that could be one below it is read on the way. -/
def ofJson? : Json → Option (Expr Float)
  | .obj [(tag, payload)] => tagged? tag payload (itemsOf payload) (argsOf payload)
  | _ => none

/-- The items of an array, each read as an expression. -/
def itemsOf : Json → List (Option (Expr Float))
  | .arr items => ofJsonEach items
  | _ => []

/-- The field `args` of an object, read as a list of expressions. -/
def argsOf : Json → Option (List (Expr Float))
  | .obj fields => argsIn fields
  | _ => none

def argsIn : List (String × Json) → Option (List (Expr Float))
  | [] => none
  | (key, payload) :: rest =>
    if key = "args" then
      match payload with
      | .arr items => (ofJsonEach items).mapM id
      | _ => none
    else argsIn rest

def ofJsonEach : List Json → List (Option (Expr Float))
  | [] => []
  | j :: rest => ofJson? j :: ofJsonEach rest

end

end Expr

end Reckoner
