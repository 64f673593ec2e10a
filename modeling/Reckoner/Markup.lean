import Reckoner.Expr.Parse
import Reckoner.Registry

/-!
# Markup

Typesets an expression: `sqrt(x)/2` becomes a fraction with a root above its line. Operands are put
in parentheses exactly where their grouping would be lost without them. Names are escaped, so that
they cannot bring commands into the output.
-/

namespace Reckoner.Markup

/-- The delimiter on both sides of display markup. -/
def displayDelimiter : String := "$$"

/-- Names that are written as Greek letters. -/
def greekNames : List String :=
  ["alpha", "beta", "gamma", "delta", "epsilon", "varepsilon", "zeta", "eta", "theta", "vartheta",
    "iota", "kappa", "lambda", "mu", "nu", "xi", "pi", "rho", "sigma", "tau", "upsilon", "phi",
    "varphi", "chi", "psi", "omega", "Gamma", "Delta", "Theta", "Lambda", "Sigma", "Phi", "Omega"]

/-- The spelling of one character that may have a meaning in markup. -/
def escapeChar (c : Char) : List Char :=
  if c = '\\' then "\\backslash ".toList
  else if c = '\x7b' ∨ c = '\x7d' ∨ c = '_' ∨ c = '%' ∨ c = '$' ∨ c = '&' ∨ c = '#' then ['\\', c]
  else if c = '^' then "\\hat\x7b\x7d".toList
  else if c = '~' then "\\sim ".toList
  else [c]

def escapeChars (cs : List Char) : List Char := cs.flatMap escapeChar

/-- The text with every special character spelled out. -/
def escape (text : String) : String := String.ofList (escapeChars text.toList)

def braced (inner : String) : String := "\x7b" ++ inner ++ "\x7d"

def parens (inner : String) : String := "\\left(" ++ inner ++ "\\right)"

/-- Markup of a whole expression on its own line. -/
def display (inner : String) : String := displayDelimiter ++ inner ++ displayDelimiter

def isAdditive : Expr Float → Bool
  | .binary .add _ _ | .binary .sub _ _ => true
  | _ => false

def isNegation : Expr Float → Bool
  | .unary .neg _ => true
  | _ => false

/-- In parentheses when they are needed. -/
def parensIf (needed : Bool) (inner : String) : String := if needed then parens inner else inner

/-- A name: the symbol of a constant, a Greek letter, or the escaped name itself, upright when it has
more than one character. -/
def renderName (registry : Registry Float) (name : String) : String :=
  match (registry.constant? name).bind Constant.markup with
  | some markup => markup
  | none =>
    if greekNames.contains name then "\\" ++ name
    else if name.length = 1 then escape name
    else "\\mathrm" ++ braced (escape name)

/-- A binary operation, given the markup of both operands. -/
def renderBinary (op : BinaryOperator) (left right : Expr Float) (l r : String) : String :=
  match op with
  | .add => l ++ " + " ++ parensIf (isNegation right) r
  | .sub => l ++ " - " ++ parensIf (isNegation right || isAdditive right) r
  | .mul => parensIf (isAdditive left) l ++ " \\cdot " ++
      parensIf (isAdditive right || isNegation right) r
  | .div => "\\frac" ++ braced l ++ braced r
  | .pow => braced (parensIf (!left.isAtomic) l) ++ "^" ++ braced r

/-- A call with its name in upright letters. -/
def operatorForm (name : String) (args : List String) : String :=
  "\\operatorname" ++ braced (escape name) ++ parens (", ".intercalate args)

/-- A call of a registered function, given its arguments and their markup. A style that does not fit
the number of arguments gives way to the name. -/
def renderFunction (f : Function Float) (args : List (Expr Float)) (texts : List String) : String :=
  match f.style, args, texts with
  | .command text, _, texts => text ++ parens (", ".intercalate texts)
  | .radical, _, [x] => "\\sqrt" ++ braced x
  | .cubeRoot, _, [x] => "\\sqrt[3]" ++ braced x
  | .absolute, _, [x] => "\\left|" ++ x ++ "\\right|"
  | .floor, _, [x] => "\\left\\lfloor " ++ x ++ "\\right\\rfloor"
  | .ceil, _, [x] => "\\left\\lceil " ++ x ++ "\\right\\rceil"
  | .exponential, _, [x] => "e^" ++ braced x
  | .logarithm, _, [x] => "\\log" ++ parens x
  | .logarithm, _, [x, base] => "\\log_" ++ braced base ++ parens x
  | .factorial, [arg], [x] => parensIf (!arg.isAtomic) x ++ "!"
  | _, _, texts => operatorForm f.name texts

/-- An integral, or the plain call when its arguments do not fit. -/
def renderIntegral (registry : Registry Float) (name : String) (args : List (Expr Float))
    (texts : List String) : String :=
  match args, texts with
  | [_, .variableRef var _, _, _], [body, _, lower, upper] =>
    "\\int_" ++ braced lower ++ "^" ++ braced upper ++ " " ++ body ++ " \\, d" ++
      renderName registry var
  | _, texts => operatorForm name texts

def renderCall (registry : Registry Float) (name : String) (args : List (Expr Float))
    (texts : List String) : String :=
  match registry.function? name with
  | some f => renderFunction f args texts
  | none =>
    if Text.sameIgnoringCase name integralName then renderIntegral registry name args texts
    else operatorForm name texts

mutual

/-- Markup without the display delimiters. -/
def render (registry : Registry Float) : Expr Float → String
  | .literal value => Decimal.Layout.plain.text value
  | .variableRef name _ => renderName registry name
  | .unary .neg operand => "-" ++ parensIf (!operand.isAtomic) (render registry operand)
  | .unary (.factorial _) operand => parensIf (!operand.isAtomic) (render registry operand) ++ "!"
  | .binary op left right =>
    renderBinary op left right (render registry left) (render registry right)
  | .call name args _ => renderCall registry name args (renderEach registry args)

/-- The markup of each of a list of expressions. -/
def renderEach (registry : Registry Float) : List (Expr Float) → List String
  | [] => []
  | e :: rest => render registry e :: renderEach registry rest

end

def renderDisplay (registry : Registry Float) (e : Expr Float) : String :=
  display (render registry e)

/-- Display markup of a source; a source that is no expression is given back as it is. -/
def ofSource (registry : Registry Float) (source : String) : String :=
  match Expr.parse source with
  | .ok e => renderDisplay registry e
  | .error _ => source

end Reckoner.Markup
