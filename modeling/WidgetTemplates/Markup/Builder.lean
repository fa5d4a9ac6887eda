import WidgetTemplates.Markup.Arena
import WidgetTemplates.Text.Blank

/-!
# Building a document

The state in which tokens become a tree: the open elements (innermost first), the formatting elements
that are still in effect, the insertion mode, and a few marks that later tokens depend on. This module
holds the state and the operations that the rules of all insertion modes share; sets of element names
that the rules speak of are collected at its beginning.
-/

namespace WidgetTemplates.Markup

/-! ## Sets of names -/

/-- The elements at which a scope ends. -/
def scopeEnds : List String :=
  ["applet", "caption", "html", "table", "td", "th", "marquee", "object", "template"]

/-- The headings. -/
def headings : List String := ["h1", "h2", "h3", "h4", "h5", "h6"]

/-- The elements that close implicitly. -/
def impliedEnds : List String :=
  ["dd", "dt", "li", "option", "optgroup", "p", "rb", "rp", "rt", "rtc"]

/-- The elements that close implicitly at the end of a template. -/
def thoroughEnds : List String :=
  impliedEnds ++ ["caption", "colgroup", "tbody", "td", "tfoot", "th", "thead", "tr"]

/-- The elements that an end tag of another name does not close. -/
def specials : List String :=
  ["address", "applet", "area", "article", "aside", "base", "basefont", "bgsound", "blockquote",
   "body", "br", "button", "caption", "center", "col", "colgroup", "dd", "details", "dir", "div",
   "dl", "dt", "embed", "fieldset", "figcaption", "figure", "footer", "form", "frame", "frameset",
   "h1", "h2", "h3", "h4", "h5", "h6", "head", "header", "hgroup", "hr", "html", "iframe", "img",
   "input", "isindex", "li", "link", "listing", "main", "marquee", "menu", "meta", "nav", "noembed",
   "noframes", "noscript", "object", "ol", "p", "param", "plaintext", "pre", "script", "section",
   "select", "source", "style", "summary", "table", "tbody", "td", "template", "textarea", "tfoot",
   "th", "thead", "title", "tr", "track", "ul", "wbr", "xmp"]

/-- The parts of a table whose stray content moves before the table. -/
def tableParts : List String := ["table", "tbody", "tfoot", "thead", "tr"]

/-- Elements of formulas that hold ordinary text. -/
def isMathText (n : Name) : Bool :=
  n.space == .math && ["mi", "mo", "mn", "ms", "mtext"].contains n.tag

/-- Elements of graphics that hold ordinary markup. -/
def isSvgMarkup (n : Name) : Bool :=
  n.space == .svg && ["foreignObject", "desc", "title"].contains n.tag

/-! ## The state -/

/-- The insertion modes. -/
inductive Mode where
  | initial
  | beforeHtml
  | beforeHead
  | inHead
  | afterHead
  | inBody
  | text
  | inTable
  | inTableText
  | inCaption
  | inColumnGroup
  | inTableBody
  | inRow
  | inCell
  | inSelect
  | inSelectInTable
  | inTemplate
  | afterBody
  | inFrameset
  | afterFrameset
  | afterAfterBody
  | afterAfterFrameset
deriving DecidableEq, Repr

/-- An entry of the list of formatting elements: an element with the tag that created it, or a boundary that formatting
does not cross. -/
inductive Formatting where
  | marker
  | element (node : Nat) (tag : Tag)
deriving DecidableEq, Repr

/-- The state of a document under construction. `savedMode` is the insertion mode to go back to after a text, and
`templateModes` are those of the open templates; open elements stand innermost first, formatting elements and the
characters between table parts latest first. A frame set may replace the body as long as `framesetOk`; `outdated` means
that the document has no proper document type; while `fostering`, content of tables moves before the table; `content`
says how the scanner goes on when it does not go on with markup. -/
structure Builder where
  arena : Arena := #[default]
  mode : Mode := .initial
  savedMode : Mode := .initial
  templateModes : List Mode := []
  opens : List Nat := []
  formatting : List Formatting := []
  head : Option Nat := none
  form : Option Nat := none
  framesetOk : Bool := true
  outdated : Bool := false
  fostering : Bool := false
  skipNewline : Bool := false
  tableText : List Char := []
  content : Option Content := none

/-- A step of the construction. -/
abbrev Build := StateM Builder

/-- What a rule did with its token: it is used up, or taken again in the new insertion mode. -/
inductive Outcome where
  | done
  | again
deriving DecidableEq, Repr

namespace Build

/-- The token is used up. -/
def done : Build Outcome := pure .done

/-- The token is taken again in the mode `mode`. -/
def retry (mode : Mode) : Build Outcome := do
  modify fun b => { b with mode }
  pure .again

/-- Goes over to a mode. -/
def setMode (mode : Mode) : Build Unit := modify fun b => { b with mode }

/-- Changes the table of nodes. -/
def edit (f : Arena → Arena) : Build Unit := modify fun b => { b with arena := f b.arena }

/-- A frame set may no longer replace the body. -/
def forbidFrameset : Build Unit := modify fun b => { b with framesetOk := false }

/-! ## Open elements -/

/-- The innermost open element. -/
def current? : Build (Option Nat) := return (← get).opens.head?

/-- Whether the innermost open element satisfies a condition on its name. -/
def currentIs (test : Name → Bool) : Build Bool := do
  let b ← get
  return (b.opens.head?.bind b.arena.name?).any test

/-- Whether the innermost open element is an ordinary one with one of these names. -/
def currentIn (tags : List String) : Build Bool := do
  let b ← get
  return b.opens.head?.any (b.arena.isOneOf tags)

/-- Closes the innermost open element. -/
def pop : Build Unit := modify fun b => { b with opens := b.opens.drop 1 }

/-- Opens an element. -/
def push (node : Nat) : Build Unit := modify fun b => { b with opens := node :: b.opens }

/-- Whether an ordinary element with this name is open. -/
def isOpen (tag : String) : Build Bool := do
  let b ← get
  return b.opens.any (b.arena.isOneOf [tag])

/-- The name at which a scope search ends. -/
abbrev Boundary := Name → Bool

/-- The boundary of ordinary scopes, with further ordinary elements. -/
def scopeWith (more : List String) : Boundary := fun n =>
  (n.space == .html && (scopeEnds.contains n.tag || more.contains n.tag))
    || isMathText n || isSvgMarkup n

/-- The ordinary scope. -/
def ordinaryScope : Boundary := scopeWith []

/-- The scope of list items. -/
def listScope : Boundary := scopeWith ["ol", "ul"]

/-- The scope of buttons. -/
def buttonScope : Boundary := scopeWith ["button"]

/-- The scope of table parts. -/
def tableScope : Boundary := fun n =>
  n.space == .html && ["html", "table", "template"].contains n.tag

/-- The scope of a select element: all but its groups and options. -/
def selectScope : Boundary := fun n =>
  !(n.space == .html && ["optgroup", "option"].contains n.tag)

/-- Whether an open element satisfies the test before the boundary is reached. -/
def inScope (boundary : Boundary) (test : Nat → Bool) : Build Bool := do
  let b ← get
  return go b.arena b.opens
where
  /-- The search from the innermost element on. -/
  go (a : Arena) : List Nat → Bool
    | [] => false
    | i :: rest => test i || (!(a.name? i).any boundary && go a rest)

/-- Whether an ordinary element with one of these names is in scope. -/
def hasInScope (boundary : Boundary) (tags : List String) : Build Bool := do
  let a := (← get).arena
  inScope boundary (a.isOneOf tags)

/-- Closes elements up to and including the first that is an ordinary one with one of these names. -/
def popThrough (tags : List String) : Build Unit :=
  modify fun b => { b with opens := (b.opens.dropWhile fun i => !b.arena.isOneOf tags i).drop 1 }

/-- Closes elements until the innermost is an ordinary one with one of these names. -/
def popUntil (tags : List String) : Build Unit :=
  modify fun b => { b with opens := b.opens.dropWhile fun i => !b.arena.isOneOf tags i }

/-- Closes the elements in `tags` that are innermost. -/
def impliedEnd (tags : List String) : Build Unit :=
  modify fun b => { b with opens := b.opens.dropWhile (b.arena.isOneOf tags) }

/-- Closes what closes implicitly, except elements with the given name. -/
def impliedEndExcept (tag : String) : Build Unit := impliedEnd (impliedEnds.filter (· != tag))

/-- Takes an element out of the open ones. -/
def unopen (node : Nat) : Build Unit :=
  modify fun b => { b with opens := b.opens.erase node }

/-- Closes a paragraph. -/
def closeParagraph : Build Unit := do
  impliedEndExcept "p"
  popThrough ["p"]

/-- Closes the paragraph that is open up to the next button. -/
def closeOpenParagraph : Build Unit := do
  if ← hasInScope buttonScope ["p"] then closeParagraph

/-! ## Insertion -/

/-- Where new content goes: after the children of a node, or before a table, where that has a parent, and else after the
children of the element that was open around it. -/
inductive Spot where
  | under (parent : Nat)
  | before (table around : Nat)

/-- Where the children of an element go: a template has a separate content. -/
def contentOf (a : Arena) (i : Nat) : Nat :=
  match (a.cell i).kind with
  | .element _ _ (some content) => content
  | _ => i

/-- The spot for content of tables: before the innermost table, or in the innermost template. -/
def fosterSpot (a : Arena) : List Nat → Spot
  | [] => .under 0
  | [i] => .under (contentOf a i)
  | i :: around :: rest =>
    if a.isOneOf ["template"] i then .under (contentOf a i)
    else if a.isOneOf ["table"] i then .before i around
    else fosterSpot a (around :: rest)

/-- Where content meant for `target` goes. -/
def spotFor (target : Nat) : Build Spot := do
  let b ← get
  if b.fostering && b.arena.isOneOf tableParts target then return fosterSpot b.arena b.opens
  else return .under (contentOf b.arena target)

/-- Where content goes now. -/
def spot : Build Spot := do spotFor ((← current?).getD 0)

/-- Places a node. -/
def place (spot : Spot) (node : Nat) : Build Unit :=
  edit fun a =>
    match spot with
    | .under parent => a.append parent node
    | .before table around =>
      match (a.cell table).parent with
      | some parent => a.insertBefore parent table node
      | none => a.append around node

/-- Inserts a character. -/
def insertChar (c : Char) : Build Unit := do
  let spot ← spot
  edit fun a =>
    match spot with
    | .under parent => a.appendChar parent c
    | .before table around =>
      match (a.cell table).parent with
      | some parent => a.insertCharBefore parent table c
      | none => a.appendChar around c

/-- Creates a node. -/
def create (kind : Kind) : Build Nat := do
  let b ← get
  set { b with arena := b.arena.create kind }
  return b.arena.size

/-- Creates an element; an ordinary template gets its content node. -/
def createElement (name : Name) (attrs : List (String × String)) : Build Nat := do
  if name == ⟨.html, "template"⟩ then
    let content ← create .root
    create (.element name attrs (some content))
  else create (.element name attrs none)

/-- Creates an element where content goes now. -/
def insertNamed (name : Name) (attrs : List (String × String)) : Build Nat := do
  let node ← createElement name attrs
  place (← spot) node
  return node

/-- Inserts an ordinary element and opens it. -/
def insert (tag : Tag) : Build Nat := do
  let node ← insertNamed ⟨.html, tag.name⟩ tag.attrs
  push node
  return node

/-- Inserts an ordinary element without attributes and opens it. -/
def insertBare (name : String) : Build Nat := insert ⟨name, [], false⟩

/-- Inserts an ordinary element that has no content. -/
def insertVoid (tag : Tag) : Build Nat := insertNamed ⟨.html, tag.name⟩ tag.attrs

/-- Inserts a comment. -/
def insertComment : Build Unit := do
  place (← spot) (← create .comment)

/-- Adds a comment after the children of a node. -/
def appendComment (parent : Nat) : Build Unit := do
  let node ← create .comment
  edit fun a => a.append parent node

/-- The outermost open element. -/
def root : Build Nat := return (← get).opens.getLast?.getD 0

/-- Creates the root element. -/
def createRoot (attrs : List (String × String)) : Build Unit := do
  let node ← createElement ⟨.html, "html"⟩ attrs
  push node
  edit fun a => a.append 0 node

/-- Inserts an element whose text is scanned in its own way. -/
def insertRaw (tag : Tag) (kind : RawText) : Build Outcome := do
  let _ ← insert tag
  modify fun b => { b with savedMode := b.mode, mode := .text, content := some (.raw kind) }
  done

/-- The mode that the open elements call for, from the innermost on. -/
def modeFor (b : Builder) : List Nat → Mode
  | [] => .inBody
  | i :: rest =>
    -- as the outermost element neither a cell nor the head counts
    let last := rest.isEmpty
    match b.arena.name? i with
    | some ⟨.html, tag⟩ =>
      if tag == "select" then selectMode b.arena rest
      else if (tag == "td" || tag == "th") && !last then .inCell
      else if tag == "tr" then .inRow
      else if tag == "tbody" || tag == "thead" || tag == "tfoot" then .inTableBody
      else if tag == "caption" then .inCaption
      else if tag == "colgroup" then .inColumnGroup
      else if tag == "table" then .inTable
      else if tag == "template" then b.templateModes.head?.getD .inBody
      else if tag == "head" && !last then .inHead
      else if tag == "body" then .inBody
      else if tag == "frameset" then .inFrameset
      else if tag == "html" then (if b.head.isSome then .afterHead else .beforeHead)
      else modeFor b rest
    | _ => modeFor b rest
where
  /-- The mode of a select element inside the given open elements. -/
  selectMode (a : Arena) : List Nat → Mode
    | [] => .inSelect
    | i :: rest =>
      if a.isOneOf ["template"] i then .inSelect
      else if a.isOneOf ["table"] i then .inSelectInTable
      else selectMode a rest

/-- Sets the mode that the open elements call for. -/
def resetMode : Build Unit := modify fun b => { b with mode := modeFor b b.opens }

/-! ## Formatting elements -/

/-- Drops the formatting elements up to and including the last boundary. -/
def clearFormatting : Build Unit :=
  modify fun b => { b with formatting := (b.formatting.dropWhile (· != .marker)).drop 1 }

/-- Sets a boundary for formatting. -/
def pushMarker : Build Unit := modify fun b => { b with formatting := .marker :: b.formatting }

/-- Whether an entry is a boundary or an open element. -/
def isSettled (b : Builder) : Formatting → Bool
  | .marker => true
  | .element node _ => b.opens.contains node

/-- Opens again the formatting elements that were closed without their end tags. -/
def reconstruct : Build Unit := do
  let b ← get
  let closed := b.formatting.takeWhile fun f => !isSettled b f
  let kept := b.formatting.drop closed.length
  let reopened ← closed.reverse.foldlM
    (fun (done : List Formatting) f => do
      match f with
      | .marker => return done
      | .element _ tag => do
        let node ← insert tag
        return .element node tag :: done)
    []
  modify fun b => { b with formatting := reopened ++ kept }

/-- The formatting elements since the last boundary, latest first. -/
def sinceMarker (fs : List Formatting) : List (Nat × Tag) :=
  (fs.takeWhile (· != .marker)).filterMap fun
    | .element node tag => some (node, tag)
    | .marker => none

/-- Whether an entry stands for this node. -/
def isEntryOf (node : Nat) : Formatting → Bool
  | .element n _ => n == node
  | .marker => false

/-- Takes a node out of the formatting elements. -/
def unformat (node : Nat) : Build Unit :=
  modify fun b => { b with formatting := b.formatting.filter fun f => !isEntryOf node f }

/-- Whether two tags have the same name and, in any order, the same attributes. -/
def sameFormatting (s t : Tag) : Bool :=
  s.name == t.name && s.attrs.length == t.attrs.length
    && s.attrs.all fun p => t.attrs.contains p

/-- Inserts a formatting element. At most three alike are kept since the last boundary. -/
def insertFormatting (tag : Tag) : Build Unit := do
  let alike := (sinceMarker (← get).formatting).filter fun e => sameFormatting tag e.2
  if 3 ≤ alike.length then
    match alike.getLast? with
    | some (node, _) => unformat node
    | none => pure ()
  let node ← insert tag
  modify fun b => { b with formatting := .element node tag :: b.formatting }

end Build

end WidgetTemplates.Markup
