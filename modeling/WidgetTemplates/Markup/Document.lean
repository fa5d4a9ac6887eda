import WidgetTemplates.Markup.Rules.Select
import WidgetTemplates.Markup.Scanner

/-!
# Reading a document

Scanning and building run hand in hand, because a start tag can change how the text after it is scanned.
The result is a tree of elements, texts and comments; `Document.parse` never fails.

A token can be taken again in another mode. Each time this happens the construction has moved on to a
later part of the document or has closed an element, so the number of open elements bounds it.
-/

namespace WidgetTemplates.Markup

/-- A node of a finished document. An element stands under its name in its own vocabulary. -/
inductive Tree where
  | text (value : String)
  | comment
  | element (tag : String) (attrs : List (String × String)) (children : List Tree)
deriving Repr, Inhabited

namespace Document

open Build

/-- The rules of an insertion mode. -/
def rules : Mode → Token → Build Outcome
  | .initial => initialRules
  | .beforeHtml => beforeHtmlRules
  | .beforeHead => beforeHeadRules
  | .inHead => headRules
  | .afterHead => afterHeadRules
  | .inBody => bodyRules
  | .text => textRules
  | .inTable => tableRules
  | .inTableText => tableTextRules
  | .inCaption => captionRules
  | .inColumnGroup => columnGroupRules
  | .inTableBody => tableBodyRules
  | .inRow => rowRules
  | .inCell => cellRules
  | .inSelect => selectRules
  | .inSelectInTable => selectInTableRules
  | .inTemplate => templateRules
  | .afterBody => afterBodyRules
  | .inFrameset => framesetRules
  | .afterFrameset => afterFramesetRules
  | .afterAfterBody => afterAfterBodyRules
  | .afterAfterFrameset => afterAfterFramesetRules

/-- Handles a token until it is used up. -/
def process : Nat → Token → Build Unit
  | 0, _ => pure ()
  | fuel + 1, t => do
    let b ← get
    let ordinary ← if isForeign b t then
        match ← foreignRules t with
        | .done => pure false
        | .ordinary => pure true
      else pure true
    if ordinary then
      match ← rules (← get).mode t with
      | .done => pure ()
      | .again => process fuel t

/-- The public identifiers of old document types, in lower case. -/
def oldPublicIds : List String :=
  ["-//w3o//dtd w3 html strict 3.0//en//", "-/w3c/dtd html 4.0 transitional/en", "html"]

/-- How public identifiers of old document types begin, in lower case. -/
def oldPublicStarts : List String :=
  ["+//silmaril//dtd html pro v0r11 19970101//", "-//as//dtd html 3.0 aswedit + extensions//",
   "-//advasoft ltd//dtd html 3.0 aswedit + extensions//", "-//ietf//dtd html 2.0 level 1//",
   "-//ietf//dtd html 2.0 level 2//", "-//ietf//dtd html 2.0 strict level 1//",
   "-//ietf//dtd html 2.0 strict level 2//", "-//ietf//dtd html 2.0 strict//",
   "-//ietf//dtd html 2.0//", "-//ietf//dtd html 2.1e//", "-//ietf//dtd html 3.0//",
   "-//ietf//dtd html 3.2 final//", "-//ietf//dtd html 3.2//", "-//ietf//dtd html 3//",
   "-//ietf//dtd html level 0//", "-//ietf//dtd html level 1//", "-//ietf//dtd html level 2//",
   "-//ietf//dtd html level 3//", "-//ietf//dtd html strict level 0//",
   "-//ietf//dtd html strict level 1//", "-//ietf//dtd html strict level 2//",
   "-//ietf//dtd html strict level 3//", "-//ietf//dtd html strict//", "-//ietf//dtd html//",
   "-//metrius//dtd metrius presentational//",
   "-//microsoft//dtd internet explorer 2.0 html strict//",
   "-//microsoft//dtd internet explorer 2.0 html//",
   "-//microsoft//dtd internet explorer 2.0 tables//",
   "-//microsoft//dtd internet explorer 3.0 html strict//",
   "-//microsoft//dtd internet explorer 3.0 html//",
   "-//microsoft//dtd internet explorer 3.0 tables//", "-//netscape comm. corp.//dtd html//",
   "-//netscape comm. corp.//dtd strict html//", "-//o'reilly and associates//dtd html 2.0//",
   "-//o'reilly and associates//dtd html extended 1.0//",
   "-//o'reilly and associates//dtd html extended relaxed 1.0//",
   "-//softquad software//dtd hotmetal pro 6.0::19990601::extensions to html 4.0//",
   "-//softquad//dtd hotmetal pro 4.0::19971010::extensions to html 4.0//",
   "-//spyglass//dtd html 2.0 extended//", "-//sq//dtd html 2.0 hotmetal + extensions//",
   "-//sun microsystems corp.//dtd hotjava html//",
   "-//sun microsystems corp.//dtd hotjava strict html//", "-//w3c//dtd html 3 1995-03-24//",
   "-//w3c//dtd html 3.2 draft//", "-//w3c//dtd html 3.2 final//", "-//w3c//dtd html 3.2//",
   "-//w3c//dtd html 3.2s draft//", "-//w3c//dtd html 4.0 frameset//",
   "-//w3c//dtd html 4.0 transitional//", "-//w3c//dtd html experimental 19960712//",
   "-//w3c//dtd html experimental 970421//", "-//w3c//dtd w3 html//", "-//w3o//dtd w3 html 3.0//",
   "-//webtechs//dtd mozilla html 2.0//", "-//webtechs//dtd mozilla html//"]

/-- The public identifiers that are old when no system identifier is given. -/
def halfOldPublicStarts : List String :=
  ["-//w3c//dtd html 4.01 frameset//", "-//w3c//dtd html 4.01 transitional//"]

/-- Whether a document type asks for the behaviour of old documents. -/
def isOld (d : Doctype) : Bool :=
  let publicId := d.publicId.map String.toLower
  let startsWith (starts : List String) (s : String) : Bool :=
    starts.any fun p => p.toList.isPrefixOf s.toList
  d.malformed || d.name != some "html"
    || publicId.any oldPublicIds.contains
    || d.systemId.any (fun s =>
        s.toLower == "http://www.ibm.com/data/dtd/v11/ibmxhtml1-transitional.dtd")
    || publicId.any (startsWith oldPublicStarts)
    || (d.systemId.isNone && publicId.any (startsWith halfOldPublicStarts))

/-- Handles a token from the scanner. -/
def accept (t : Token) : Build Unit := do
  let skip := (← get).skipNewline
  modify fun b => { b with skipNewline := false }
  match t with
  | .fault => pure ()
  | .doctype d =>
    if (← get).mode == .initial then
      modify fun b => { b with outdated := isOld d, mode := .beforeHtml }
  | .char '\n' => if skip then pure () else run t
  | _ => run t
where
  /-- Handles a token with enough rounds for all the modes it can pass through. -/
  run (t : Token) : Build Unit := do process (16 + 4 * (← get).opens.length) t

/-- The scanner and the document so far. -/
structure Reader where
  scanner : Scanner := {}
  builder : Builder := {}

/-- Hands the tokens of a step on, and the wish of a start tag back to the scanner. -/
def Reader.deliver (r : Reader) : Reader :=
  let builder := (r.scanner.output.reverse.forM accept r.builder).2
  let scanner := { r.scanner with output := [] }
  match builder.content with
  | some (.raw kind) => ⟨scanner.goto (.raw kind), { builder with content := none }⟩
  | some .plain => ⟨scanner.goto .plain, { builder with content := none }⟩
  | none => ⟨scanner, builder⟩

/-- Whether the innermost open element is a foreign one. -/
def insideForeign (b : Builder) : Bool :=
  match b.opens.head?.bind b.arena.name? with
  | some n => n.space != .html
  | none => false

/-- Reads one character. -/
def Reader.read (r : Reader) (c : Char) : Reader :=
  let r := { r with scanner := r.scanner.step (insideForeign r.builder) c }
  if r.scanner.output.isEmpty then r else r.deliver

/-- The children of a node as trees. A template shows its content. -/
def trees (a : Arena) : Nat → Nat → List Tree
  | 0, _ => []
  | fuel + 1, i =>
    (a.cell i).children.toList.map fun child =>
      match (a.cell child).kind with
      | .text reversed => .text (String.ofList reversed.reverse)
      | .comment => .comment
      | .root => .comment
      | .element name attrs content =>
        .element name.tag attrs (trees a fuel (content.getD child))

/-- The nodes of the document that a text denotes. A byte order mark in front is dropped. -/
def parse (source : List Char) : List Tree :=
  let source := match source with
    | '\ufeff' :: rest => rest
    | _ => source
  let r := (normalizeNewlines source).foldl Reader.read {}
  let r := { r with scanner := r.scanner.finish }.deliver
  trees r.builder.arena (r.builder.arena.size + 1) 0

end Document

end WidgetTemplates.Markup
