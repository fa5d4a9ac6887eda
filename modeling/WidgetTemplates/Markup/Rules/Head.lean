import WidgetTemplates.Markup.Adoption

/-!
# Rules before the body

The insertion modes up to the start of the body, and the rules for head content, which other modes fall
back on. Tokens that fit nowhere make the missing `html`, `head` and `body` elements appear.
-/

namespace WidgetTemplates.Markup.Build

/-- Whether a token is a white-space character. -/
def isSpaceToken : Token → Bool
  | .char c => Text.isMarkupSpace c
  | _ => false

/-- An `html` start tag after the first: it only adds attributes that are missing. -/
def extraHtml (tag : Tag) : Build Outcome := do
  if !(← isOpen "template") then
    let root ← root
    edit fun a => a.addMissingAttrs root tag.attrs
  done

/-- Before anything has been seen. -/
def initialRules : Token → Build Outcome := fun t => do
  if isSpaceToken t then done
  else
    match t with
    | .comment => do appendComment 0; done
    | _ => do
      -- no declaration came first, so the document is of the old kind
      modify fun b => { b with outdated := true }
      retry .beforeHtml

/-- Before the `html` element. -/
def beforeHtmlRules : Token → Build Outcome := fun t => do
  if isSpaceToken t then done
  else
    match t with
    | .comment => do appendComment 0; done
    | .startTag tag =>
      if tag.name == "html" then do
        createRoot tag.attrs
        setMode .beforeHead
        done
      else do createRoot []; retry .beforeHead
    | .endTag tag =>
      if ["head", "body", "html", "br"].contains tag.name then do
        createRoot []
        retry .beforeHead
      else done
    | _ => do createRoot []; retry .beforeHead

/-- Before the `head` element. -/
def beforeHeadRules : Token → Build Outcome := fun t => do
  if isSpaceToken t then done
  else
    match t with
    | .comment => do insertComment; done
    | .startTag tag =>
      if tag.name == "html" then extraHtml tag
      else if tag.name == "head" then do
        let node ← insert tag
        modify fun b => { b with head := some node, mode := .inHead }
        done
      else implied
    | .endTag tag => if ["head", "body", "html", "br"].contains tag.name then implied else done
    | _ => implied
where
  /-- The head appears by itself. -/
  implied : Build Outcome := do
    let node ← insertBare "head"
    modify fun b => { b with head := some node }
    retry .inHead

/-- The end tag of a template. -/
def endTemplate : Build Outcome := do
  if ← isOpen "template" then
    impliedEnd thoroughEnds
    popThrough ["template"]
    clearFormatting
    modify fun b => { b with templateModes := b.templateModes.drop 1 }
    resetMode
  done

/-- In the head. -/
def headRules : Token → Build Outcome := fun t => do
  if isSpaceToken t then
    match t with
    | .char c => do insertChar c; done
    | _ => done
  else
    match t with
    | .comment => do insertComment; done
    | .startTag tag =>
      if tag.name == "html" then extraHtml tag
      else if ["base", "basefont", "bgsound", "link", "meta"].contains tag.name then do
        let _ ← insertVoid tag
        done
      else if tag.name == "title" then insertRaw tag .references
      -- with scripts enabled the content of `noscript` is a text
      else if ["noframes", "style", "noscript"].contains tag.name then insertRaw tag .literal
      else if tag.name == "script" then insertRaw tag .script
      else if tag.name == "template" then do
        -- up to its end a template has formatting elements and a mode of its own
        let _ ← insert tag
        pushMarker
        forbidFrameset
        modify fun b =>
          { b with mode := .inTemplate, templateModes := .inTemplate :: b.templateModes }
        done
      else if tag.name == "head" then done
      else leave
    | .endTag tag =>
      if tag.name == "head" then do
        pop
        setMode .afterHead
        done
      else if ["body", "html", "br"].contains tag.name then leave
      else if tag.name == "template" then endTemplate
      else done
    | _ => leave
where
  /-- The head ends by itself. -/
  leave : Build Outcome := do
    pop
    retry .afterHead

/-- After the head. Head content that comes late still goes into the head. -/
def afterHeadRules : Token → Build Outcome := fun t => do
  if isSpaceToken t then
    match t with
    | .char c => do insertChar c; done
    | _ => done
  else
    match t with
    | .comment => do insertComment; done
    | .startTag tag =>
      if tag.name == "html" then extraHtml tag
      else if tag.name == "body" then do
        let _ ← insert tag
        forbidFrameset
        setMode .inBody
        done
      else if tag.name == "frameset" then do
        let _ ← insert tag
        setMode .inFrameset
        done
      else if ["base", "basefont", "bgsound", "link", "meta", "noframes", "script", "style",
          "template", "title"].contains tag.name then do
        -- the head is opened again for this token only
        let head := (← get).head.getD 0
        push head
        let outcome ← headRules t
        unopen head
        return outcome
      else if tag.name == "head" then done
      else implied
    | .endTag tag =>
      if tag.name == "template" then headRules t
      else if ["body", "html", "br"].contains tag.name then implied
      else done
    | _ => implied
where
  /-- The body appears by itself. -/
  implied : Build Outcome := do
    let _ ← insertBare "body"
    retry .inBody

end WidgetTemplates.Markup.Build
