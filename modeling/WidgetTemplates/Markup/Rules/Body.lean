import WidgetTemplates.Markup.Rules.Foreign

/-!
# Rules of the body

What start tags, end tags and characters do in the body of a document. Most other modes fall back on
these rules.
-/

namespace WidgetTemplates.Markup.Build

/-- Ordinary blocks: they end an open paragraph. -/
def blocks : List String :=
  ["address", "article", "aside", "blockquote", "center", "details", "dialog", "dir", "div", "dl",
   "fieldset", "figcaption", "figure", "footer", "header", "hgroup", "main", "menu", "nav", "ol",
   "p", "section", "summary", "ul"]

/-- The elements whose end tags close them with all that is open inside. -/
def closables : List String :=
  ["address", "article", "aside", "blockquote", "button", "center", "details", "dialog", "dir",
   "div", "dl", "fieldset", "figcaption", "figure", "footer", "header", "hgroup", "listing", "main",
   "menu", "nav", "ol", "pre", "section", "summary", "ul"]

/-- The formatting elements, except `a` and `nobr`, which have rules of their own. -/
def plainFormatting : List String :=
  ["b", "big", "code", "em", "font", "i", "s", "small", "strike", "strong", "tt", "u"]

/-- A character in the body. -/
def bodyChar (c : Char) : Build Outcome := do
  reconstruct
  if !Text.isMarkupSpace c then forbidFrameset
  insertChar c
  done

/-- The body element, if it is the second open element from the outside. -/
def bodyElement? : Build (Option Nat) := do
  let b ← get
  match b.opens.reverse with
  | _ :: second :: _ => return if b.arena.isOneOf ["body"] second then some second else none
  | _ => return none

/-- A list item or a definition: it ends the one that is open up to the next special element. -/
def startItem (tag : Tag) : Build Outcome := do
  forbidFrameset
  let names := if tag.name == "li" then ["li"] else ["dd", "dt"]
  -- address, div and p end no search for an open item
  let stops := specials.filter fun n => !(["address", "div", "p"].contains n)
  let b ← get
  match b.opens.find? fun i => b.arena.isOneOf names i || b.arena.isOneOf stops i with
  | some i =>
    match b.arena.name? i with
    | some ⟨.html, name⟩ =>
      if names.contains name then
        impliedEndExcept name
        popThrough [name]
    | _ => pure ()
  | none => pure ()
  closeOpenParagraph
  let _ ← insert tag
  done

/-- An anchor ends the anchor that is open. -/
def startAnchor (tag : Tag) : Build Outcome := do
  let b ← get
  match (sinceMarker b.formatting).find? fun e => b.arena.isOneOf ["a"] e.1 with
  | some (node, _) =>
    endFormatting "a"
    unformat node
    unopen node
  | none => pure ()
  reconstruct
  insertFormatting tag
  done

/-- A frame set may take the place of a body in which nothing has been seen yet. -/
def startFrameset (tag : Tag) : Build Outcome := do
  if (← get).framesetOk then
    match ← bodyElement? with
    | some body =>
      edit fun a => a.detach body
      -- only the root stays open
      modify fun b => { b with opens := b.opens.drop (b.opens.length - 1) }
      let _ ← insert tag
      setMode .inFrameset
    | none => pure ()
  done

/-- Whether an input element is hidden. -/
def isHiddenInput (tag : Tag) : Bool :=
  match tag.attrs.lookup "type" with
  | some v => v.toLower == "hidden"
  | none => false

/-- A start tag in the body. -/
def bodyStart (tag : Tag) : Build Outcome := do
  let name := tag.name
  if name == "html" then extraHtml tag
  -- such content is handled as in the head
  else if ["base", "basefont", "bgsound", "link", "meta", "noframes", "script", "style", "template",
      "title"].contains name then headRules (.startTag tag)
  else if name == "body" then
    match ← bodyElement? with
    | some body =>
      if !(← isOpen "template") then
        forbidFrameset
        edit fun a => a.addMissingAttrs body tag.attrs
    | none => pure ()
    done
  else if name == "frameset" then startFrameset tag
  else if blocks.contains name then
    closeOpenParagraph
    let _ ← insert tag
    done
  else if headings.contains name then
    closeOpenParagraph
    -- headings do not nest
    if ← currentIn headings then pop
    let _ ← insert tag
    done
  -- the first line feed inside counts as part of the tag
  else if name == "pre" || name == "listing" then
    closeOpenParagraph
    let _ ← insert tag
    modify fun b => { b with skipNewline := true, framesetOk := false }
    done
  else if name == "form" then
    -- forms do not nest, except in templates
    let inTemplate ← isOpen "template"
    if (← get).form.isNone || inTemplate then
      closeOpenParagraph
      let node ← insert tag
      if !inTemplate then modify fun b => { b with form := some node }
    done
  else if ["li", "dd", "dt"].contains name then startItem tag
  else if name == "plaintext" then
    closeOpenParagraph
    let _ ← insert tag
    modify fun b => { b with content := some .plain }
    done
  else if name == "button" then
    if ← hasInScope ordinaryScope ["button"] then
      impliedEnd impliedEnds
      popThrough ["button"]
    reconstruct
    let _ ← insert tag
    forbidFrameset
    done
  else if name == "a" then startAnchor tag
  else if plainFormatting.contains name then
    reconstruct
    insertFormatting tag
    done
  else if name == "nobr" then
    reconstruct
    if ← hasInScope ordinaryScope ["nobr"] then
      endFormatting "nobr"
      reconstruct
    insertFormatting tag
    done
  else if ["applet", "marquee", "object"].contains name then
    reconstruct
    let _ ← insert tag
    pushMarker
    forbidFrameset
    done
  else if name == "table" then
    -- in a document of the old kind a table may stand in a paragraph
    if !(← get).outdated then closeOpenParagraph
    let _ ← insert tag
    forbidFrameset
    setMode .inTable
    done
  else if ["area", "br", "embed", "img", "keygen", "wbr", "input"].contains name then
    reconstruct
    let _ ← insertVoid tag
    if !(name == "input" && isHiddenInput tag) then forbidFrameset
    done
  else if ["param", "source", "track"].contains name then
    let _ ← insertVoid tag
    done
  else if name == "hr" then
    closeOpenParagraph
    let _ ← insertVoid tag
    forbidFrameset
    done
  -- an old name for `img`
  else if name == "image" then
    reconstruct
    let _ ← insertVoid { tag with name := "img" }
    forbidFrameset
    done
  else if name == "textarea" then
    modify fun b => { b with skipNewline := true, framesetOk := false }
    insertRaw tag .references
  else if name == "xmp" then
    closeOpenParagraph
    reconstruct
    forbidFrameset
    insertRaw tag .literal
  -- what is meant for readers without frames is no markup
  else if name == "iframe" then
    forbidFrameset
    insertRaw tag .literal
  else if name == "noembed" then insertRaw tag .literal
  else if name == "select" then
    reconstruct
    let _ ← insert tag
    modify fun b =>
      { b with framesetOk := false
               mode := if [Mode.inTable, .inCaption, .inTableBody, .inRow, .inCell].contains b.mode
                 then .inSelectInTable else .inSelect }
    done
  else if name == "optgroup" || name == "option" then
    if ← currentIn ["option"] then pop
    reconstruct
    let _ ← insert tag
    done
  else if name == "rb" || name == "rtc" then
    if ← hasInScope ordinaryScope ["ruby"] then impliedEnd impliedEnds
    let _ ← insert tag
    done
  else if name == "rp" || name == "rt" then
    if ← hasInScope ordinaryScope ["ruby"] then impliedEndExcept "rtc"
    let _ ← insert tag
    done
  else if name == "math" then insertForeign .math tag
  else if name == "svg" then insertForeign .svg tag
  -- these belong into tables, frame sets or the head, and are ignored elsewhere
  else if ["caption", "col", "colgroup", "frame", "head", "tbody", "td", "tfoot", "th", "thead",
      "tr"].contains name then done
  -- with scripts enabled the content of `noscript` is a text
  else if name == "noscript" then insertRaw tag .literal
  else
    reconstruct
    let _ ← insert tag
    done

/-- The end tag of a form. -/
def endForm : Build Outcome := do
  if ← isOpen "template" then
    if ← hasInScope ordinaryScope ["form"] then
      impliedEnd impliedEnds
      popThrough ["form"]
  else
    let form := (← get).form
    modify fun b => { b with form := none }
    match form with
    | some node =>
      if ← inScope ordinaryScope (· == node) then
        impliedEnd impliedEnds
        -- elements inside the form stay open
        unopen node
    | none => pure ()
  done

/-- An end tag in the body. -/
def bodyEnd (tag : Tag) : Build Outcome := do
  let name := tag.name
  if name == "template" then endTemplate
  else if name == "body" then
    if ← hasInScope ordinaryScope ["body"] then setMode .afterBody
    done
  else if name == "html" then
    if ← hasInScope ordinaryScope ["body"] then retry .afterBody else done
  else if closables.contains name then
    if ← hasInScope ordinaryScope [name] then
      impliedEnd impliedEnds
      popThrough [name]
    done
  else if name == "form" then endForm
  else if name == "p" then
    -- an end tag without a paragraph makes an empty one
    if !(← hasInScope buttonScope ["p"]) then
      let _ ← insertBare "p"
    closeParagraph
    done
  else if ["li", "dd", "dt"].contains name then
    if ← hasInScope (if name == "li" then listScope else ordinaryScope) [name] then
      impliedEndExcept name
      popThrough [name]
    done
  else if headings.contains name then
    if ← hasInScope ordinaryScope headings then
      impliedEnd impliedEnds
      popThrough headings
    done
  else if name == "a" || name == "nobr" || plainFormatting.contains name then
    endFormatting name
    done
  else if ["applet", "marquee", "object"].contains name then
    if ← hasInScope ordinaryScope [name] then
      impliedEnd impliedEnds
      popThrough [name]
      clearFormatting
    done
  -- `</br>` is read as `<br>`
  else if name == "br" then bodyStart ⟨"br", [], false⟩
  else
    endOrdinary name
    done

/-- The end of the text closes the open templates one after another. -/
def templateStop : Build Outcome := do
  if ← isOpen "template" then
    popThrough ["template"]
    clearFormatting
    modify fun b => { b with templateModes := b.templateModes.drop 1 }
    resetMode
    return .again
  else done

/-- In the body. -/
def bodyRules : Token → Build Outcome
  | .char c => bodyChar c
  | .comment => do insertComment; done
  | .startTag tag => bodyStart tag
  | .endTag tag => bodyEnd tag
  | .stop => do
    if (← get).templateModes.isEmpty then done else templateStop
  | _ => done

/-- In the text of an element that is not scanned as markup. -/
def textRules : Token → Build Outcome
  | .char c => do insertChar c; done
  | .stop => do
    pop
    retry (← get).savedMode
  | .endTag _ => do
    pop
    setMode (← get).savedMode
    done
  | _ => done

end WidgetTemplates.Markup.Build
