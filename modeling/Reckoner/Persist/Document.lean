import Reckoner.Calculator
import Reckoner.Json.Record

/-!
# Stored documents

Variables, evaluated lines, results, suggestions and constants. Fields without a value are left out.
-/

namespace Reckoner

open Json

namespace Variable

def toJson (v : Variable Float) : Json :=
  .obj ([("name", .str v.name), ("value", .ofFloat v.value)] ++
    field? "expression" .str v.expression ++ field? "markup" .str v.markup)

def ofJson? (j : Json) : Option (Variable Float) := do
  let r ← record? ["name", "value", "expression", "markup"] j
  let name ← r.required "name" str?
  let value ← r.required "value" float?
  let expression ← r.omissible "expression" str?
  let markup ← r.omissible "markup" str?
  return ⟨name, value, expression, markup⟩

end Variable

namespace Line

def toJson (line : Line) : Json :=
  .obj ([("source", .str line.source), ("markup", .str line.markup)] ++
    field? "value" .ofFloat line.value ++ field? "error" .str line.error ++
    field? "assigned_to" .str line.assignedTo)

def ofJson? (j : Json) : Option Line := do
  let r ← record? ["source", "markup", "value", "error", "assigned_to"] j
  let source ← r.required "source" str?
  let markup ← r.required "markup" str?
  let value ← r.omissible "value" float?
  let error ← r.omissible "error" str?
  let assignedTo ← r.omissible "assigned_to" str?
  return ⟨source, markup, value, error, assignedTo⟩

end Line

namespace Evaluated

def toJson (e : Evaluated) : Json :=
  .obj [("value", .ofFloat e.value), ("markup", .str e.markup)]

def ofJson? (j : Json) : Option Evaluated := do
  let r ← record? ["value", "markup"] j
  let value ← r.required "value" float?
  let markup ← r.required "markup" str?
  return ⟨value, markup⟩

end Evaluated

namespace Suggestion

def toJson (s : Suggestion) : Json :=
  .obj [("title", .str s.title), ("subtitle", .str s.subtitle), ("category", .str s.category),
    ("insertion_text", .str s.insertion)]

def ofJson? (j : Json) : Option Suggestion := do
  let r ← record? ["title", "subtitle", "category", "insertion_text"] j
  let title ← r.required "title" str?
  let subtitle ← r.required "subtitle" str?
  let category ← r.required "category" str?
  let insertion ← r.required "insertion_text" str?
  return ⟨title, subtitle, category, insertion⟩

end Suggestion

namespace Constant

def toJson (c : Constant Float) : Json :=
  .obj ([("name", .str c.name), ("value", .ofFloat c.value)] ++ field? "markup" .str c.markup ++
    [("source", .str c.source), ("category", .str c.category)])

def ofJson? (j : Json) : Option (Constant Float) := do
  let r ← record? ["name", "value", "markup", "source", "category"] j
  let name ← r.required "name" str?
  let value ← r.required "value" float?
  let markup ← r.omissible "markup" str?
  let source ← r.required "source" str?
  let category ← r.required "category" str?
  return ⟨name, value, markup, source, category⟩

end Constant

end Reckoner
