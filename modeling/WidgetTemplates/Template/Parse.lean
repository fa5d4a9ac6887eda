import WidgetTemplates.Markup.Document
import WidgetTemplates.Script.Grammar.Check
import WidgetTemplates.Template.Diagnostic
import WidgetTemplates.Template.Placeholder
import WidgetTemplates.Template.Settings
import WidgetTemplates.Template.TagExpansion
import WidgetTemplates.Text.Lowercase

/-!
# Reading a template

From the text of a template to its tree: expressions are lifted, tags are expanded, the result is read as
markup, and the markup tree is turned into template nodes, with the expressions back in their places.
Reading never fails; what is wrong is reported beside the tree.
-/

namespace WidgetTemplates.Template

open Markup (Tree)
open Script (Expr)

/-- What a conversion yields: nodes, and what is wrong with them, in order. -/
structure Parsed where
  nodes : List Node
  diagnostics : List Diagnostic
deriving Inhabited

/-- One result after another. -/
def Parsed.append (p q : Parsed) : Parsed := ⟨p.nodes ++ q.nodes, p.diagnostics ++ q.diagnostics⟩

/-- What a conversion depends on: the settings of the template, and the expressions lifted out of it. -/
structure Source where
  settings : Settings
  lifted : List Lifted

namespace Source

/-- The expression that a piece stands for. -/
def expression? (s : Source) : Piece → Option Lifted
  | .literal _ => none
  | .placeholder index _ => s.lifted[index]?

/-- The value of an attribute: none for the empty text, a single piece by itself, and several pieces as
a sum. -/
def attributeValue (s : Source) (value : List Char) : Option Expr :=
  let parts := (split value).map fun piece =>
    match s.expression? piece with
    | some e => Expr.ofText (String.ofList e.code)
    | none => Expr.str (String.ofList piece.text)
  if value.isEmpty then none
  else
    match parts with
    | [part] => some part
    | _ => some (.concat parts)

/-- The nodes of a text: literal pieces of more than blanks, and expressions. -/
def textNodes (s : Source) (text : List Char) : List Node :=
  (split text).flatMap fun piece =>
    match s.expression? piece with
    | some e => [.expression (Expr.ofText (String.ofList e.code)) e.location]
    | none =>
      if (Text.trim piece.text).isEmpty then [] else [.text (String.ofList piece.text) .start]

/-- The report of a text that is no expression. -/
def check (s : Source) (code : List Char) (location : Location) : List Diagnostic :=
  if Script.Grammar.accepts code then []
  else [.of s.settings.filePath location (.badExpression (String.ofList code))]

end Source

/-! ## Loop headers -/

/-- A character that may start the name of a loop item. -/
def isItemStart (c : Char) : Bool := c.isAlpha || c == '_' || c == '$'

/-- A character that may continue the name of a loop item. -/
def isItemChar (c : Char) : Bool := c.isAlphanum || c == '_' || c == '$'

/-- The text after the word `in` of a loop header, which has to be set off by a blank. When nothing but
blanks follows, one that is no line feed has to remain as the source. A source does not extend over a
line. -/
def loopSource? (s : List Char) : Option (List Char) :=
  let blanks := s.takeWhile Text.isBlank
  let source := Text.trimEnd (s.drop blanks.length)
  if blanks.isEmpty then none
  else if source.isEmpty then
    if (blanks.drop 1).any (· != '\n') then some [] else none
  else if source.contains '\n' then none
  else some source

/-- The item and the source of a loop header `item in source`. -/
def loopHeader? (header : List Char) : Option (List Char × List Char) :=
  let s := Text.trimStart header
  let item := s.takeWhile isItemChar
  let afterItem := s.drop item.length
  let blanks := afterItem.takeWhile Text.isBlank
  if !(item.head?.any isItemStart) || blanks.isEmpty then none
  else
    match afterItem.drop blanks.length with
    | 'i' :: 'n' :: rest => (loopSource? rest).map (item, ·)
    | _ => none

/-- A loop source without the `${` and `}` around it. -/
def unwrapSource (source : List Char) : List Char :=
  match Text.dropStart? ['$', '\x7b'] source with
  | none => source
  | some rest =>
    match Text.dropEnd? ['\x7d'] rest with
    | some inner => Text.trim inner
    | none => source

/-! ## Conversion -/

mutual

/-- The template nodes of a markup node. -/
def convert (s : Source) : Tree → Parsed
  | .text value => ⟨s.textNodes value.toList, []⟩
  | .comment => ⟨[], []⟩
  | .element tag attrs children =>
    -- a loop has been marked before the markup was read
    if tag == "template" && attrs.any (·.1 == loopMarker) then
      let header := restore s.lifted ((attrs.lookup "each").getD "").toList
      match loopHeader? header with
      | none =>
        ⟨[], [.of s.settings.filePath .start (.badLoop (String.ofList header))]⟩
      | some (item, source) =>
        let source := unwrapSource source
        let body := convertList s children
        ⟨[.loop (String.ofList item) (Expr.ofText (String.ofList source)) body.nodes .start],
          s.check source .start ++ body.diagnostics⟩
    else
      let inner := convertList s children
      let el : Element :=
        { tag, custom := s.settings.isCustomTag tag
          attributes := attrs.map fun (name, value) => ⟨name, s.attributeValue value.toList⟩ }
      ⟨[.element el inner.nodes], inner.diagnostics⟩

/-- The template nodes of several markup nodes. -/
def convertList (s : Source) : List Tree → Parsed
  | [] => ⟨[], []⟩
  | t :: rest => (convert s t).append (convertList s rest)

end

/-- The elements that a markup reader adds when a document lacks them. -/
def wrapperTags : List String := ["html", "head", "body"]

mutual

/-- The template nodes of a markup node at the top, with the root element left out, and unless
`keepWrappers` the head and the body too. -/
def convertTop (s : Source) (keepWrappers : Bool) : Tree → Parsed
  | .element tag attrs children =>
    if (wrapperTags.contains tag && !keepWrappers) || tag == "html" then
      convertTopList s keepWrappers children
    else convert s (.element tag attrs children)
  | t => convert s t

/-- The template nodes of several markup nodes at the top. -/
def convertTopList (s : Source) (keepWrappers : Bool) : List Tree → Parsed
  | [] => ⟨[], []⟩
  | t :: rest => (convertTop s keepWrappers t).append (convertTopList s keepWrappers rest)

end

/-- Whether the head and the body of a template are its own. -/
def keepsWrappers (source : List Char) : Bool :=
  Text.occurs "<html".toList (Text.lowercase source)

/-- The tree of a template and what is wrong with it: first the lifted expressions, then the loops. -/
def parse (source : String) (settings : Settings) : Parsed :=
  -- expressions are lifted first, so that their characters are not taken for markup
  let chars := source.toList
  let (text, lifted) := lift chars
  let s : Source := ⟨settings, lifted⟩
  let trees := Markup.Document.parse (markLoops (expandSelfClosing text))
  let checks : List Diagnostic := lifted.flatMap fun e => s.check e.code e.location
  Parsed.append ⟨[], checks⟩ (convertTopList s (keepsWrappers chars) trees)

end WidgetTemplates.Template
