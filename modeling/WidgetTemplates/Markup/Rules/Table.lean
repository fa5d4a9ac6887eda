import WidgetTemplates.Markup.Rules.Body

/-!
# Rules of tables

The insertion modes inside a table. What a table cannot hold is handled by the rules of the body and
moves before the table.
-/

namespace WidgetTemplates.Markup.Build

/-- Handles a token by the rules of the body, its content moving before the table. -/
def foster (t : Token) : Build Outcome := do
  modify fun b => { b with fostering := true }
  let outcome ← bodyRules t
  modify fun b => { b with fostering := false }
  return outcome

/-- In a table. -/
def tableRules (t : Token) : Build Outcome := do
  match t with
  | .char _ | .nul =>
    if ← currentIn tableParts then
      -- whether the characters move in front of the table depends on all of them, so they are gathered first
      modify fun b => { b with savedMode := b.mode }
      retry .inTableText
    else foster t
  | .comment =>
    insertComment
    done
  | .startTag tag =>
    let name := tag.name
    if name == "caption" then
      popUntil ["html", "table", "template"]
      pushMarker
      let _ ← insert tag
      setMode .inCaption
      done
    else if name == "colgroup" then
      popUntil ["html", "table", "template"]
      let _ ← insert tag
      setMode .inColumnGroup
      done
    else if name == "col" then
      popUntil ["html", "table", "template"]
      -- the group is implied by the column
      let _ ← insertBare "colgroup"
      retry .inColumnGroup
    else if ["tbody", "tfoot", "thead"].contains name then
      popUntil ["html", "table", "template"]
      let _ ← insert tag
      setMode .inTableBody
      done
    else if ["td", "th", "tr"].contains name then
      popUntil ["html", "table", "template"]
      -- so is the body by a row or a cell
      let _ ← insertBare "tbody"
      retry .inTableBody
    else if name == "table" then
      -- a table in a table ends the outer one
      if ← hasInScope tableScope ["table"] then
        popThrough ["table"]
        resetMode
        return .again
      else done
    else if ["style", "script", "template"].contains name then headRules t
    -- a hidden input may stand between the parts of a table
    else if name == "input" && isHiddenInput tag then
      let _ ← insertVoid tag
      done
    else if name == "form" then
      if !(← isOpen "template") && (← get).form.isNone then
        let node ← insertVoid tag
        modify fun b => { b with form := some node }
      done
    else foster t
  | .endTag tag =>
    if tag.name == "table" then
      if ← hasInScope tableScope ["table"] then
        popThrough ["table"]
        resetMode
      done
    else if ["body", "caption", "col", "colgroup", "html", "tbody", "td", "tfoot", "th", "thead",
        "tr"].contains tag.name then done
    else if tag.name == "template" then headRules t
    else foster t
  | .stop => bodyRules t
  | _ => foster t

/-- Between the parts of a table: characters are gathered, and if they are not all white space they move
before the table. -/
def tableTextRules (t : Token) : Build Outcome := do
  match t with
  | .nul => done
  | .char c =>
    modify fun b => { b with tableText := c :: b.tableText }
    done
  | _ =>
    let text := (← get).tableText.reverse
    modify fun b => { b with tableText := [] }
    -- white space stays, any other text moves in front of the table
    if text.all Text.isMarkupSpace then text.forM insertChar
    else text.forM fun c => do let _ ← foster (.char c)
    retry (← get).savedMode

/-- In a caption. -/
def captionRules (t : Token) : Build Outcome := do
  let parts := ["caption", "col", "colgroup", "tbody", "td", "tfoot", "th", "thead", "tr"]
  let leave (again : Bool) : Build Outcome := do
    if ← hasInScope tableScope ["caption"] then
      impliedEnd impliedEnds
      popThrough ["caption"]
      clearFormatting
      if again then retry .inTable
      else
        setMode .inTable
        done
    else done
  match t with
  | .startTag tag => if parts.contains tag.name then leave true else bodyRules t
  | .endTag tag =>
    if tag.name == "caption" then leave false
    -- the end of the table ends the caption first
    else if tag.name == "table" then leave true
    else if tag.name == "body" || tag.name == "html" || parts.contains tag.name then done
    else bodyRules t
  | _ => bodyRules t

/-- In a group of columns. -/
def columnGroupRules (t : Token) : Build Outcome := do
  let leave : Build Outcome := do
    if ← currentIn ["colgroup"] then
      pop
      retry .inTable
    else done
  match t with
  | .char c =>
    if Text.isMarkupSpace c then
      insertChar c
      done
    else leave
  | .comment =>
    insertComment
    done
  | .startTag tag =>
    if tag.name == "html" then extraHtml tag
    else if tag.name == "col" then
      let _ ← insertVoid tag
      done
    else if tag.name == "template" then headRules t
    else leave
  | .endTag tag =>
    if tag.name == "colgroup" then
      if ← currentIn ["colgroup"] then
        pop
        setMode .inTable
      done
    else if tag.name == "col" then done
    else if tag.name == "template" then headRules t
    else leave
  | .stop => bodyRules t
  | _ => leave

/-- The boundary at which a table body is cleared. -/
def bodyContext : List String := ["tbody", "tfoot", "thead", "template", "html"]

/-- The boundary at which a row is cleared. -/
def rowContext : List String := ["tr", "template", "html"]

/-- In a table body. -/
def tableBodyRules (t : Token) : Build Outcome := do
  let leave : Build Outcome := do
    if ← hasInScope tableScope ["table", "tbody", "tfoot"] then
      popUntil bodyContext
      pop
      retry .inTable
    else done
  match t with
  | .startTag tag =>
    if tag.name == "tr" then
      popUntil bodyContext
      let _ ← insert tag
      setMode .inRow
      done
    else if tag.name == "th" || tag.name == "td" then
      popUntil bodyContext
      -- the row is implied by the cell
      let _ ← insertBare "tr"
      retry .inRow
    else if ["caption", "col", "colgroup", "tbody", "tfoot", "thead"].contains tag.name then leave
    else tableRules t
  | .endTag tag =>
    if ["tbody", "tfoot", "thead"].contains tag.name then
      if ← hasInScope tableScope [tag.name] then
        popUntil bodyContext
        pop
        setMode .inTable
      done
    else if tag.name == "table" then leave
    else if ["body", "caption", "col", "colgroup", "html", "td", "th", "tr"].contains tag.name then
      done
    else tableRules t
  | _ => tableRules t

/-- In a row. -/
def rowRules (t : Token) : Build Outcome := do
  let leave (next : Build Outcome) : Build Outcome := do
    if ← hasInScope tableScope ["tr"] then
      popUntil rowContext
      pop
      next
    else done
  match t with
  | .startTag tag =>
    if tag.name == "th" || tag.name == "td" then
      popUntil rowContext
      let _ ← insert tag
      setMode .inCell
      pushMarker
      done
    else if ["caption", "col", "colgroup", "tbody", "tfoot", "thead", "tr"].contains tag.name then
      leave (retry .inTableBody)
    else tableRules t
  | .endTag tag =>
    if tag.name == "tr" then
      -- the end tag of a row is used up, any other one is read again outside it
      leave do
        setMode .inTableBody
        done
    else if tag.name == "table" then leave (retry .inTableBody)
    else if ["tbody", "tfoot", "thead"].contains tag.name then
      if ← hasInScope tableScope [tag.name] then leave (retry .inTableBody) else done
    else if ["body", "caption", "col", "colgroup", "html", "td", "th"].contains tag.name then done
    else tableRules t
  | _ => tableRules t

/-- In a cell. -/
def cellRules (t : Token) : Build Outcome := do
  let close : Build Outcome := do
    impliedEnd impliedEnds
    popThrough ["td", "th"]
    clearFormatting
    retry .inRow
  match t with
  | .startTag tag =>
    if ["caption", "col", "colgroup", "tbody", "td", "tfoot", "th", "thead", "tr"].contains tag.name
    then
      -- without an open cell, the tag belongs to no table and is ignored
      if ← hasInScope tableScope ["td", "th"] then close else done
    else bodyRules t
  | .endTag tag =>
    if tag.name == "td" || tag.name == "th" then
      if ← hasInScope tableScope [tag.name] then
        impliedEnd impliedEnds
        popThrough [tag.name]
        clearFormatting
        setMode .inRow
      done
    else if ["body", "caption", "col", "colgroup", "html"].contains tag.name then done
    else if ["table", "tbody", "tfoot", "thead", "tr"].contains tag.name then
      if ← hasInScope tableScope [tag.name] then close else done
    else bodyRules t
  | _ => bodyRules t

end WidgetTemplates.Markup.Build
