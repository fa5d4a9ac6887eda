import WidgetTemplates.Json.Printer
import WidgetTemplates.Page.Failure

/-!
# Carrying state into the browser

A codec writes a mapping as script that assigns it to a global of the browser, and prepares a mapping for
transport inside other JSON. `Codec.json` writes plain JSON that is safe inside a `<script>` element: the
characters that could end the element or a line of the script are escaped.
-/

namespace WidgetTemplates.Page

/-- The global that a mapping is assigned to; `additive` says whether the entries are added to those that are there. -/
structure Target where
  name : String
  additive : Bool
deriving DecidableEq, Repr

namespace Target

/-- Where states go. -/
def state : Target := ⟨"$markoWidgetsState", true⟩

/-- Where configurations go. -/
def config : Target := ⟨"$markoWidgetsConfig", true⟩

/-- The script that assigns a value, given as script, to the global. -/
def assign (t : Target) (value : String) : String :=
  if t.additive then
    "(function(t,s)\x7bfor(var k in s)t[k]=s[k]\x7d)(window." ++ t.name ++ "||(window." ++ t.name
      ++ "=\x7b\x7d)," ++ value ++ ")"
  else "window." ++ t.name ++ "=" ++ value

end Target

/-- A way to carry mappings into the browser: script that assigns a mapping to a global, a value to be carried inside
JSON, and what the receiver makes of a carried value. -/
structure Codec where
  serialize : Target → Json.Members → Except Failure String
  prepare : Json.Members → Except Failure Json
  finalize : Json → Except Failure Json

/-- A character of a JSON text inside a script element. -/
def scriptChar (c : Char) : List Char :=
  if c == '<' then ['\\', 'u', '0', '0', '3', 'C']
  else if c == '\u2028' then ['\\', 'u', '2', '0', '2', '8']
  else if c == '\u2029' then ['\\', 'u', '2', '0', '2', '9']
  else [c]

/-- A mapping as JSON that is safe inside a script element. -/
def scriptJson (members : Json.Members) : String := Text.expand scriptChar (Json.object members).print

/-- Plain JSON. -/
def Codec.json : Codec where
  serialize target members := .ok (target.assign (scriptJson members))
  prepare members := .ok (.object members)
  finalize value := .ok value

end WidgetTemplates.Page
