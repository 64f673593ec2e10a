import Reckoner.Function
import Reckoner.Json
import Reckoner.Text.Quoted

/-!
# Descriptions of functions

What can be written about a row of the function table: its data, and a summary on one line for
diagnostics. Rules are not written, so functions are not read back.
-/

namespace Reckoner

namespace Arity

def toJson : Arity → Json
  | exact n => .obj [("Exact", .ofNat n)]
  | range least most => .obj [("Range", .arr [.ofNat least, .ofNat most])]
  | atLeast n => .obj [("AtLeast", .ofNat n)]

def summary : Arity → String
  | exact n => "Exact(" ++ toString n ++ ")"
  | range least most => "Range(" ++ toString least ++ ", " ++ toString most ++ ")"
  | atLeast n => "AtLeast(" ++ toString n ++ ")"

end Arity

namespace Style

def tag : Style → String
  | command _ => "Command"
  | operator => "Operator"
  | radical => "Radical"
  | cubeRoot => "CubeRoot"
  | absolute => "Absolute"
  | floor => "Floor"
  | ceil => "Ceil"
  | exponential => "Exponential"
  | logarithm => "Logarithm"
  | factorial => "Factorial"

def toJson : Style → Json
  | command text => .obj [("Command", .str text)]
  | style => .str style.tag

def summary : Style → String
  | command text => "Command(" ++ Text.quote text ++ ")"
  | style => style.tag

end Style

namespace Function

variable {α : Type}

def toJson (f : Function α) : Json :=
  .obj [("name", .str f.name), ("description", .str f.description), ("usage", .str f.usage),
    ("category", .str f.category), ("arity", f.arity.toJson), ("markup", f.style.toJson)]

/-- One line for diagnostics. -/
def summary (f : Function α) : String :=
  "FunctionDef \x7b name: " ++ Text.quote f.name ++ ", category: " ++ Text.quote f.category ++
    ", arity: " ++ f.arity.summary ++ ", markup: " ++ f.style.summary ++ " \x7d"

end Function

end Reckoner
