import WidgetTemplates.Json.Decode
import WidgetTemplates.Template.Location

/-!
# Diagnostics

What can be wrong with a template. A problem is a cause; its code and its wording are functions of it.
A diagnostic is a problem reported at a place of a file.
-/

namespace WidgetTemplates.Template

/-- Something wrong with a template: an attribute that asks for a default widget where there is none, an attribute or a
body slot outside every widget, a text that is no expression of a script, and a loop whose header does not name an item
and a source. An `other` problem is worded by whoever reports it. -/
inductive Problem where
  | noDefaultWidget (name : String)
  | outsideWidget (name : String)
  | bodyOutsideWidget
  | badExpression (code : String)
  | badLoop (header : String)
  | other (code message : String)
deriving DecidableEq, Repr

namespace Problem

/-- The code of a problem. -/
def code : Problem → String
  | .noDefaultWidget _ => "W-ERR-DEFAULT-MODULE"
  | .outsideWidget _ => "W-ERR-BIND-SCOPE"
  | .bodyOutsideWidget => "W-ERR-BODY-SCOPE"
  | .badExpression _ => "W-ERR-EXPR-SYNTAX"
  | .badLoop _ => "W-ERR-PARSE"
  | .other code _ => code

/-- The wording of a problem. -/
def message : Problem → String
  | .noDefaultWidget name =>
    "Unable to find default widget module when using " ++ name ++ " without a value"
  | .outsideWidget name => name ++ " can only be used within the scope of w-bind"
  | .bodyOutsideWidget => "w-body can only be used within the scope of w-bind"
  | .badExpression code => "Invalid expression syntax \x60" ++ code ++ "\x60"
  | .badLoop header =>
    "Invalid <for> loop: expected each=\"item in items\", found \"" ++ header ++ "\""
  | .other _ message => message

end Problem

/-- A problem reported at a place of a file. -/
structure Diagnostic where
  code : String
  message : String
  file : String
  line : UInt32
  column : UInt32
deriving DecidableEq, Repr

namespace Diagnostic

/-- The report of a problem. -/
def of (file : String) (location : Location) (problem : Problem) : Diagnostic :=
  ⟨problem.code, problem.message, file, location.line, location.column⟩

/-- The text of a diagnostic. -/
def print (d : Diagnostic) : String :=
  d.file ++ ":" ++ toString d.line.toNat ++ ":" ++ toString d.column.toNat ++ ": " ++ d.message
    ++ " [" ++ d.code ++ "]"

/-- The JSON form of a diagnostic. -/
def toJson (d : Diagnostic) : Json :=
  .object [("code", .string d.code), ("message", .string d.message), ("file", .string d.file),
    ("line", .nat d.line.toNat), ("column", .nat d.column.toNat)]

/-- The diagnostic that a JSON value encodes. -/
def ofJson? (value : Json) : Option Diagnostic := do
  let fields ← Json.fields? ["code", "message", "file", "line", "column"] value
  let code ← fields.required? "code" Json.asString?
  let message ← fields.required? "message" Json.asString?
  let file ← fields.required? "file" Json.asString?
  let line ← fields.required? "line" Json.asWord32?
  let column ← fields.required? "column" Json.asWord32?
  some ⟨code, message, file, line, column⟩

end Diagnostic

end WidgetTemplates.Template
