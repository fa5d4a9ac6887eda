/-!
# Finding and cutting text

Searches over lists of characters: a given start or end, an occurrence anywhere, and a mapping of each
character to a piece of text.
-/

namespace WidgetTemplates.Text

/-- What follows `start` in a text that begins with it. -/
def dropStart? (start : List Char) (s : List Char) : Option (List Char) :=
  if start.isPrefixOf s then some (s.drop start.length) else none

/-- What precedes `stop` in a text that ends with it. -/
def dropEnd? (stop : List Char) (s : List Char) : Option (List Char) :=
  (dropStart? stop.reverse s.reverse).map List.reverse

/-- Whether `part` occurs somewhere in the text. -/
def occurs (part : List Char) : List Char → Bool
  | [] => part.isEmpty
  | c :: rest => part.isPrefixOf (c :: rest) || occurs part rest

/-- The text with every character replaced by the piece of text that `f` gives it. -/
def expand (f : Char → List Char) (s : String) : String := String.ofList (s.toList.flatMap f)

/-- The texts one after another with `separator` between neighbours. -/
def joinWith (separator : String) : List String → String
  | [] => ""
  | [s] => s
  | s :: rest => s ++ separator ++ joinWith separator rest

end WidgetTemplates.Text
