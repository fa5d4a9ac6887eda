import WidgetTemplates.Json.Decode

/-!
# Places in a template

A place is a line and a column, both counted from one.
-/

namespace WidgetTemplates.Template

/-- A place in a template; the column counts characters. -/
structure Location where
  line : UInt32 := 1
  column : UInt32 := 1
deriving DecidableEq, Repr, Inhabited

namespace Location

/-- The first place of a template. -/
def start : Location := ⟨1, 1⟩

/-- The place after a character. -/
def advance (l : Location) (c : Char) : Location :=
  if c == '\n' then ⟨l.line + 1, 1⟩ else ⟨l.line, l.column + 1⟩

/-- The JSON form of a place. -/
def toJson (l : Location) : Json :=
  .object [("line", .nat l.line.toNat), ("column", .nat l.column.toNat)]

/-- The place that a JSON value encodes. -/
def ofJson? (value : Json) : Option Location := do
  let fields ← Json.fields? ["line", "column"] value
  let line ← fields.required? "line" Json.asWord32?
  let column ← fields.required? "column" Json.asWord32?
  some ⟨line, column⟩

end Location

end WidgetTemplates.Template
