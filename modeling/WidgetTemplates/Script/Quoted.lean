import WidgetTemplates.Json.Printer

/-!
# String literals of a script

A text is written in a script as a JSON string whose line and paragraph separators are escaped too, since
a script would read them as line ends.
-/

namespace WidgetTemplates.Script

/-- A character inside a string literal. -/
def escapeChar (c : Char) : List Char :=
  if c == '\u2028' then ['\\', 'u', '2', '0', '2', '8']
  else if c == '\u2029' then ['\\', 'u', '2', '0', '2', '9']
  else Json.escapeChar c

/-- The characters of a text between the quotes of its literal. -/
def escape (s : List Char) : List Char := s.flatMap escapeChar

/-- A text as a double-quoted string literal. -/
def quote (s : String) : String := "\"" ++ Text.expand escapeChar s ++ "\""

end WidgetTemplates.Script
