import WidgetTemplates.Template.Node
import WidgetTemplates.Text.Blank
import WidgetTemplates.Text.Search

/-!
# Expanding tags for the markup reader

A markup reader takes `<app-button />` for a start tag, so such tags are written out as a start and an end
tag, void elements excepted. It also moves unknown elements out of tables; a template element stays where
it is, so loops are read as marked templates.

Both replace occurrences of a shape from left to right (`substitute`).
-/

namespace WidgetTemplates.Template

/-- Replaces what `find` recognises: at the front of a text it tells the length of an occurrence and what
replaces it. The first `skip` characters belong to an occurrence that has been replaced. -/
def substitute (find : List Char → Option (Nat × List Char)) : Nat → List Char → List Char
  | _, [] => []
  | skip + 1, _ :: rest => substitute find skip rest
  | 0, c :: rest =>
    match find (c :: rest) with
    | some (length, replacement) => replacement ++ substitute find (length - 1) rest
    | none => c :: substitute find 0 rest

/-- A letter, a digit or a hyphen. -/
def isTagChar (c : Char) : Bool := c.isAlphanum || c == '-'

/-- The inside of a tag after its name, less the slash at its end and the blanks before it. The first
blank stays. Anything else is not the inside of a self-closing tag. -/
def selfClosingInside? (body : List Char) : Option (List Char) :=
  match Text.dropEnd? ['/'] body with
  | some [] => some []
  | some (c :: inside) => if Text.isBlank c then some (c :: Text.trimEnd inside) else none
  | none => none

/-- A self-closing tag at the front of a text: its length and what replaces it. -/
def selfClosing? : List Char → Option (Nat × List Char)
  | '<' :: rest =>
    let name := rest.takeWhile isTagChar
    let after := rest.drop name.length
    let body := after.takeWhile fun c => c != '<' && c != '>'
    match name, after.drop body.length, selfClosingInside? body with
    | first :: _, '>' :: _, some inside =>
      if !first.isAlpha then none
      else
        let length := 1 + name.length + body.length + 1
        -- a void element needs no end tag
        if isVoid (String.ofList (name.map Char.toLower)) then some (length, ('<' :: rest).take length)
        else some (length, '<' :: name ++ inside ++ '>' :: '<' :: '/' :: name ++ ['>'])
    | _, _, _ => none
  | _ => none

/-- A text with its self-closing tags written out. -/
def expandSelfClosing (s : List Char) : List Char := substitute selfClosing? 0 s

/-- The attribute that marks a template element as a loop. -/
def loopMarker : String := "data-w-loop"

/-- The start of a loop tag at the front of a text. -/
def loopOpen? (s : List Char) : Option (Nat × List Char) :=
  match Text.dropStart? "<for".toList s with
  | some (c :: _) =>
    if Text.isBlank c || c == '>' then
      -- `<for` and the character behind it
      some (5, "<template ".toList ++ loopMarker.toList ++ [c])
    else none
  | _ => none

/-- The end tag of a loop at the front of a text. -/
def loopClose? (s : List Char) : Option (Nat × List Char) :=
  match Text.dropStart? "</for".toList s with
  | some rest =>
    let blanks := rest.takeWhile Text.isBlank
    match rest.drop blanks.length with
    | '>' :: _ => some (5 + blanks.length + 1, "</template>".toList)
    | _ => none
  | none => none

/-- A text with its loop tags turned into marked templates. -/
def markLoops (s : List Char) : List Char := substitute loopClose? 0 (substitute loopOpen? 0 s)

end WidgetTemplates.Template
