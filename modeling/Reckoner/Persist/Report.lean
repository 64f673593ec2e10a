import Reckoner.Json.Record
import Reckoner.Report

/-!
# Stored error reports
-/

namespace Reckoner

open Json

def ErrorKind.tag : ErrorKind → String
  | .malformed => "Syntax"
  | .undefinedVariable => "UndefinedVariable"
  | .undefinedFunction => "UndefinedFunction"
  | .domain => "Domain"
  | .invalidInput => "InvalidInput"
  | .unsolvable => "Unsolvable"
  | .convergence => "Convergence"
  | .nonAmortizing => "NonAmortizingLoan"

def ErrorKind.toJson (k : ErrorKind) : Json := .str k.tag

def ErrorKind.ofJson? (j : Json) : Option ErrorKind := enum? all tag j

namespace Report

/-- Suggestion and position are left out when they are not known. -/
def toJson (r : Report) : Json :=
  .obj ([("kind", r.kind.toJson), ("code", .str r.code), ("message", .str r.message)] ++
    field? "suggestion" .str r.suggestion ++ field? "position" .ofNat r.position)

def ofJson? (j : Json) : Option Report := do
  let r ← record? ["kind", "code", "message", "suggestion", "position"] j
  let kind ← r.required "kind" ErrorKind.ofJson?
  let code ← r.required "code" str?
  let message ← r.required "message" str?
  let suggestion ← r.nullable "suggestion" str?
  let position ← r.nullable "position" nat?
  return ⟨kind, code, message, suggestion, position⟩

end Report

end Reckoner
