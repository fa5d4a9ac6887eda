import WidgetTemplates.Text.Search

/-!
# Escaping text for markup

The characters that mean something in markup are written as character references.
-/

namespace WidgetTemplates.Markup

/-- A character of a text. -/
def escapeTextChar (c : Char) : List Char :=
  if c == '&' then "&amp;".toList
  else if c == '<' then "&lt;".toList
  else if c == '>' then "&gt;".toList
  else [c]

/-- A character of an attribute value between double quotes. -/
def escapeValueChar (c : Char) : List Char :=
  if c == '"' then "&#34;".toList else escapeTextChar c

/-- A text as markup. -/
def escapeText (s : String) : String := Text.expand escapeTextChar s

/-- An attribute value as markup. -/
def escapeValue (s : String) : String := Text.expand escapeValueChar s

end WidgetTemplates.Markup
