import WidgetTemplates.Compile.CompileUnit

/-!
# What the next widget receives

Attributes of an element can hand an id, event handlers and a base widget to the next widget that is
created under it. A call before the element deposits them and a call after it clears them; an element that
hands over nothing has neither call.
-/

namespace WidgetTemplates.Compile

open Script (Expr Stmt)
open Template (Element)

/-- The widget that the next widget extends: its type, configuration and state. -/
structure Extension where
  widgetType : Expr
  config : Option Expr
  state : Option Expr
deriving Repr, Inhabited

/-- What the next widget receives: its id inside the containing widget, the types of its custom events with their
handlers in order, and the widget that it extends. -/
structure Handover where
  id : Option Expr := none
  events : List (String × Expr) := []
  extension : Option Extension := none
deriving Repr, Inhabited

namespace Handover

/-- Whether nothing is handed over. -/
def isEmpty (h : Handover) : Bool := h.id.isNone && h.events.isEmpty && h.extension.isNone

/-- Sets the id. -/
def setId (h : Handover) (id : Expr) : Handover := { h with id := some id }

/-- Adds a custom event. -/
def addEvent (h : Handover) (type : String) (handler : Expr) : Handover :=
  { h with events := h.events ++ [(type, handler)] }

/-- Sets the base widget. -/
def setExtension (h : Handover) (widgetType : Expr) (config state : Option Expr) : Handover :=
  { h with extension := some ⟨widgetType, config, state⟩ }

/-- The arguments of the depositing call: the output, the id of the containing widget if an id or an
event refers to it, the id, the events as pairs in one list, and the base widget with its configuration
and state. Arguments at the end that are absent are left out, those before a present one are `null`. -/
def args (h : Handover) : List Expr :=
  let scope := if h.id.isSome || !h.events.isEmpty then Expr.widget.member "id" else .null
  let events :=
    if h.events.isEmpty then (if h.extension.isSome then [Expr.null] else [])
    else [.array (h.events.flatMap fun e => [.str e.1, e.2])]
  let extension := match h.extension with
    | none => []
    | some x => [x.widgetType, x.config.getD .null, x.state.getD .null]
  [.out, scope, h.id.getD .null] ++ events ++ extension

/-- The depositing call, whose helper is declared. -/
def depositCall (h : Handover) (u : CompileUnit) : Expr × CompileUnit :=
  ((Expr.ident "__widgetArgs").call h.args,
    u.importHelper "__widgetArgs" "marko-widgets/taglib/helpers/widgetArgs")

/-- The clearing call, whose helper is declared. -/
def clearCall (u : CompileUnit) : Expr × CompileUnit :=
  ((Expr.ident "_cleanupWidgetArgs").call [.out],
    u.declare "_cleanupWidgetArgs" "__widgetArgs.cleanup")

/-- Puts the two calls around an element, unless nothing is handed over. -/
def surround (h : Handover) (el : Element) (u : CompileUnit) : Element × CompileUnit :=
  if h.isEmpty then (el, u)
  else
    let (deposit, u) := h.depositCall u
    let (clear, u) := clearCall u
    ((el.insertBefore (.expr deposit)).insertAfter (.expr clear), u)

end Handover

end WidgetTemplates.Compile
