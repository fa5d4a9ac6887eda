/-!
# Tokens of markup

What scanning a markup text yields: tags with their attributes, single characters, and marks for the
comments and document types whose content nothing depends on.
-/

namespace WidgetTemplates.Markup

/-- A tag with its lower-case name and its attributes in source order, names distinct. It may end in a slash. -/
structure Tag where
  name : String
  attrs : List (String × String)
  selfClosing : Bool
deriving DecidableEq, Repr

/-- A document type declaration, with the name and the identifiers that it gives. -/
structure Doctype where
  name : Option String
  publicId : Option String
  systemId : Option String
  malformed : Bool
deriving DecidableEq, Repr

/-- A token. A character is any but NUL, which is a token of its own where markup forbids it. A fault is a place where
the text is malformed and yields nothing else. -/
inductive Token where
  | startTag (tag : Tag)
  | endTag (tag : Tag)
  | char (c : Char)
  | nul
  | comment
  | doctype (doctype : Doctype)
  | fault
  | stop
deriving DecidableEq, Repr

/-- How the text of an element is scanned when it is not ordinary markup: with character references but no tags, or with
neither of them. In a script it also matters whether the text stands inside a comment opening, and there inside a script
tag. -/
inductive RawText where
  | references
  | literal
  | script
  | scriptEscaped
  | scriptDoubleEscaped
deriving DecidableEq, Repr

/-- What the scanner reads next, as asked for by a start tag: the text of one element up to its end tag, or text to the
end of the input. -/
inductive Content where
  | raw (kind : RawText)
  | plain
deriving DecidableEq, Repr

end WidgetTemplates.Markup
