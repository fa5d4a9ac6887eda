import WidgetTemplates.Compile.Site
import WidgetTemplates.Text.Lowercase

/-!
# The widget attributes

One rule for each widget attribute: `w-bind` makes an element the root of a widget, `w-id` gives it an id,
`w-on…` listens to an event, `w-extend` hands over a base widget, `w-for` points a label at an element and
`w-body` marks the place of the widget's body. `Site.applyRules` applies them in order. What a widget's root
learns from the elements inside is written when the widget is closed (`Site.leave`).
-/

namespace WidgetTemplates.Compile

open Script (Expr Stmt)
open Template (Element Node Problem)

namespace Site

/-! ## Roots -/

/-- Opens the widget of the element. -/
def enter (s : Site) (widgetType : Expr) : Site :=
  { s with unit := s.unit.openWidget { tag := s.el.tag, location := s.el.location, widgetType }
           isRoot := true }

/-- The id of a root comes from the widget around it, which is still the innermost one. -/
def bindId (s : Site) : Site :=
  match s.takeAttr "w-id" with
  | (none, s) => s
  | (some a, s) =>
    if !s.inWidget then s.report (.outsideWidget "w-id")
    else
      -- the widget of the root is rendered under the id that the widget around it chooses
      match a.value with
      | some id => s.handOver (·.setId id)
      | none => s

/-- `w-bind`: the element becomes the root of a widget. -/
def bind (s : Site) : Site :=
  match s.takeAttr "w-bind" with
  | (none, s) => s
  | (some a, s) =>
    match s.unit.widgetTypeOf? a.value with
    | none => s.report (.noDefaultWidget "w-bind")
    | some (widgetType, unit) => ({ s with unit }.bindId).enter widgetType

/-! ## Ids, events and base widgets -/

/-- `w-id` on an element that is no root. -/
def handleId (s : Site) : Site :=
  if !s.el.has "w-id" then s
  else
    match s.requireWidget (.outsideWidget "w-id") with
    -- outside every widget the attribute is taken all the same
    | (false, s) => (s.takeAttr "w-id").2
    | (true, s) =>
      if s.el.custom then
        let (nested, s) := s.nestedId
        s.handOver (·.setId nested)
      else (s.assign s.inLoop).ensureVariable

/-- The type of the event that an attribute listens to, if it does: what follows `w-on` without hyphens
in front, in lower case. -/
def eventType? (name : String) : Option String :=
  match Text.dropStart? "w-on".toList name.toList with
  | none => none
  | some [] => none
  | some type => some (String.ofList (Text.lowercase (type.dropWhile (· == '-'))))

/-- A handler of an event. A custom element hands it over; an ordinary one carries it for the widget,
whose root listens to the events of the page. -/
def listen (s : Site) (type : String) (handler : Expr) : Site :=
  if s.el.custom then s.handOver (·.addEvent type handler)
  else
    -- the page finds the handler by its name, and the widget by its id
    let value := Expr.concat [handler, .str "|", Expr.widget.member "id"]
    let s := s.setAttr ("data-w-on" ++ type) value
    { s with unit := s.unit.modifyContaining fun w => { w with domEvents := true } }

/-- One `w-on…` attribute, which is consumed; without a value it means nothing. -/
def handleEvent (s : Site) (name : String) : Site :=
  match s.takeAttr name, eventType? name with
  | (some ⟨_, some handler⟩, s), some type => s.listen type handler
  | (_, s), _ => s

/-- The `w-on…` attributes of the element. -/
def eventNames (s : Site) : List String := s.el.names.filter fun n => (eventType? n).isSome

/-- `w-on…`. Custom events are routed back by the id of the next widget, so it gets one. -/
def handleEvents (s : Site) : Site :=
  match s.eventNames with
  | [] => s
  | first :: more =>
    match s.requireWidget (.outsideWidget first) with
    | (false, s) => s
    | (true, s) =>
      -- the id of the next widget matters only for events that are handed over
      let before := (s.handover.getD {}).events.length
      let s := (first :: more).foldl handleEvent s
      if before < (s.handover.getD {}).events.length then
        let (nested, s) := s.nestedId
        s.handOver (·.setId nested)
      else s

/-- `w-extend`, with `w-config` and `w-state`. -/
def handleExtend (s : Site) : Site :=
  match s.takeAttr "w-extend" with
  | (none, s) => s
  | (some a, s) =>
    match s.unit.widgetTypeOf? a.value with
    | none => s.report (.noDefaultWidget "w-extend")
    | some (widgetType, unit) =>
      let (config, s) := { s with unit }.takeAttr "w-config"
      let (state, s) := s.takeAttr "w-state"
      s.handOver (·.setExtension widgetType (config.bind (·.value)) (state.bind (·.value)))

/-- `w-for`. -/
def handleFor (s : Site) : Site :=
  match s.takeAttr "w-for" with
  | (none, s) => s
  | (some a, s) =>
    match s.requireWidget (.outsideWidget "w-for"), a.value with
    | (true, s), some target => s.setAttr "for" (elementIdCall (some target))
    | (_, s), _ => s

/-! ## Body slots -/

/-- The body that the creator of the widget provides. -/
def providedBody : Expr := (Expr.ident "data").member "widgetBody"

/-- The id of the slot and the body of a root. The slot is the root itself, which an empty mark says. -/
def rootSlot (s : Site) (body : Option Expr) : Expr × Expr × Site :=
  let id := Expr.widget.member "id"
  match body with
  | some e => (id, e, s)
  | none =>
    (id, providedBody,
      { s with unit := s.unit.modifyContaining fun w => w.set "body" (.str "") })

/-- The id of the slot and the body of any other element. A body of its own may be rendered any number of
times, so the id is computed when the template runs; a provided body is announced to the root. -/
def innerSlot (s : Site) (body : Option Expr) : Expr × Expr × Site :=
  let (body, s) := match body with
    | some e => (e, (s.assign true).ensureVariable)
    | none =>
      -- the id of a provided body is a single one, below a loop as well
      let (nested, s) := (s.assign false).nestedId
      (providedBody, { s with unit := s.unit.modifyContaining fun w => w.set "body" nested })
  let (id, s) := s.absoluteId
  (id, body, s)

/-- `w-body`. Outside a widget it stays where it is. -/
def handleBody (s : Site) : Site :=
  if !s.el.has "w-body" then s
  else
    match s.requireWidget .bodyOutsideWidget with
    | (false, s) => s
    | (true, s) =>
      let (a, s) := s.takeAttr "w-body"
      let body := a.bind (·.value)
      let (id, body, s) := if s.isRoot then s.rootSlot body else s.innerSlot body
      let call := (Expr.ident "__widgetBody").call [.out, id, body, .widget]
      { s with unit := s.unit.importHelper "__widgetBody" "marko-widgets/taglib/helpers/widgetBody"
               appended := s.appended ++ [.expr call] }

/-! ## All rules -/

/-- All rules in order. -/
def applyRules (s : Site) : Site :=
  let s := s.bind
  let s := if s.isRoot then s else s.handleId
  s.handleEvents.handleExtend.handleFor.handleBody

/-- Puts the calls that hand over around the element. -/
def surround (s : Site) : Site :=
  match s.handover with
  | none => s
  | some h =>
    let (el, unit) := h.surround s.el s.unit
    { s with el, unit }

/-- The name of the attribute that a pending write goes to. -/
def pendingName (name : String) : String := if name == "body" then "data-w-body" else name

/-- The root of a widget with everything that is known about the widget: its id, its type, its DOM events,
the pending writes and the wrapper that creates it. -/
def finishRoot (el : Element) (w : OpenWidget) : Element :=
  let el := el.set "id" (Expr.widget.member "id")
  let el := el.set "data-widget" (w.widgetType.member "name")
  let el := if w.domEvents then el.set "data-w-on" (.str "1") else el
  let el := w.pending.foldl (fun el p => el.set (pendingName p.1) p.2) el
  el.bind ⟨.ident "__widgetTag", w.widgetType⟩

/-- Closes the widget of a root. -/
def leave (s : Site) : Site :=
  match s.unit.closeWidget with
  | .error m => { s with unit := s.unit.blame m }
  | .ok (w, unit) =>
    { s with el := finishRoot s.el w
             unit := unit.importHelper "__widgetTag" "marko-widgets/taglib/widget-tag" }

end Site

end WidgetTemplates.Compile
