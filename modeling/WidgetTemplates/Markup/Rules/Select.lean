import WidgetTemplates.Markup.Rules.Table

/-!
# Rules of selections, templates and frame sets

The insertion modes inside a `select` element, inside a template, inside a frame set and after the body.
-/

namespace WidgetTemplates.Markup.Build

/-- Closes the select element and takes the token again. -/
def leaveSelect : Build Outcome := do
  popThrough ["select"]
  resetMode
  return .again

/-- In a select element. -/
def selectRules (t : Token) : Build Outcome := do
  match t with
  | .char c =>
    insertChar c
    done
  | .comment =>
    insertComment
    done
  | .startTag tag =>
    if tag.name == "html" then extraHtml tag
    else if tag.name == "option" then
      if ← currentIn ["option"] then pop
      let _ ← insert tag
      done
    else if tag.name == "optgroup" then
      if ← currentIn ["option"] then pop
      if ← currentIn ["optgroup"] then pop
      let _ ← insert tag
      done
    -- a second start tag ends the element
    else if tag.name == "select" then closeSelect
    -- these may not stand in a selection, so it ends before them
    else if ["input", "keygen", "textarea"].contains tag.name then
      if ← hasInScope selectScope ["select"] then leaveSelect else done
    else if tag.name == "script" || tag.name == "template" then headRules t
    else done
  | .endTag tag =>
    if tag.name == "optgroup" then
      -- the end of a group also ends an option in it
      let b ← get
      match b.opens with
      | inner :: outer :: _ =>
        if b.arena.isOneOf ["option"] inner && b.arena.isOneOf ["optgroup"] outer then pop
      | _ => pure ()
      if ← currentIn ["optgroup"] then pop
      done
    else if tag.name == "option" then
      if ← currentIn ["option"] then pop
      done
    else if tag.name == "select" then closeSelect
    else if tag.name == "template" then headRules t
    else done
  | .stop => bodyRules t
  | _ => done
where
  /-- The select element ends. -/
  closeSelect : Build Outcome := do
    if ← hasInScope selectScope ["select"] then
      popThrough ["select"]
      resetMode
    done

/-- In a select element inside a table. -/
def selectInTableRules (t : Token) : Build Outcome := do
  let parts := ["caption", "table", "tbody", "tfoot", "thead", "tr", "td", "th"]
  match t with
  | .startTag tag => if parts.contains tag.name then leaveSelect else selectRules t
  | .endTag tag =>
    if parts.contains tag.name then
      if ← hasInScope tableScope [tag.name] then leaveSelect else done
    else selectRules t
  | _ => selectRules t

/-- In a template: the first tag decides what the template holds. -/
def templateRules (t : Token) : Build Outcome := do
  -- the mode of the template is replaced, and the token is read again in it
  let become (mode : Mode) : Build Outcome := do
    modify fun b => { b with templateModes := mode :: b.templateModes.drop 1 }
    retry mode
  match t with
  | .char _ | .comment => bodyRules t
  | .startTag tag =>
    let name := tag.name
    if ["base", "basefont", "bgsound", "link", "meta", "noframes", "script", "style", "template",
        "title"].contains name then headRules t
    else if ["caption", "colgroup", "tbody", "tfoot", "thead"].contains name then become .inTable
    else if name == "col" then become .inColumnGroup
    else if name == "tr" then become .inTableBody
    else if name == "td" || name == "th" then become .inRow
    else become .inBody
  | .endTag tag => if tag.name == "template" then endTemplate else done
  | .stop => templateStop
  | _ => done

/-- After the body. -/
def afterBodyRules (t : Token) : Build Outcome := do
  -- white space behind the body belongs to the body
  if isSpaceToken t then bodyRules t
  else
    match t with
    | .comment =>
      appendComment (← root)
      done
    | .startTag tag => if tag.name == "html" then extraHtml tag else retry .inBody
    | .endTag tag =>
      if tag.name == "html" then
        setMode .afterAfterBody
        done
      else retry .inBody
    | .stop => done
    | _ => retry .inBody

/-- After the end of the root element. -/
def afterAfterBodyRules (t : Token) : Build Outcome := do
  if isSpaceToken t then bodyRules t
  else
    match t with
    | .comment =>
      appendComment 0
      done
    | .startTag tag => if tag.name == "html" then extraHtml tag else retry .inBody
    | .stop => done
    | _ => retry .inBody

/-- In a frame set. -/
def framesetRules (t : Token) : Build Outcome := do
  match t with
  | .char c =>
    if Text.isMarkupSpace c then insertChar c
    done
  | .comment =>
    insertComment
    done
  | .startTag tag =>
    if tag.name == "html" then extraHtml tag
    else if tag.name == "frameset" then
      let _ ← insert tag
      done
    else if tag.name == "frame" then
      let _ ← insertVoid tag
      done
    else if tag.name == "noframes" then headRules t
    else done
  | .endTag tag =>
    -- the outermost frame set, which is the root, stays
    if tag.name == "frameset" && (← get).opens.length != 1 then
      pop
      if !(← currentIn ["frameset"]) then setMode .afterFrameset
    done
  | _ => done

/-- After a frame set. -/
def afterFramesetRules (t : Token) : Build Outcome := do
  match t with
  | .char c =>
    if Text.isMarkupSpace c then insertChar c
    done
  | .comment =>
    insertComment
    done
  | .startTag tag =>
    if tag.name == "html" then extraHtml tag
    else if tag.name == "noframes" then headRules t
    else done
  | .endTag tag =>
    if tag.name == "html" then setMode .afterAfterFrameset
    done
  | _ => done

/-- After the end of the root element of a frame set. -/
def afterAfterFramesetRules (t : Token) : Build Outcome := do
  if isSpaceToken t then bodyRules t
  else
    match t with
    | .comment =>
      appendComment 0
      done
    | .startTag tag =>
      if tag.name == "html" then extraHtml tag
      else if tag.name == "noframes" then headRules t
      else done
    | _ => done

end WidgetTemplates.Markup.Build
