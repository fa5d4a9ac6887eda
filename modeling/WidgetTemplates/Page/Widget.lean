import WidgetTemplates.Json.Basic
import WidgetTemplates.Text.Search

/-!
# Rendered widgets

What a page remembers of a widget that it has rendered. Elements inside a widget get ids that start with
the id of the widget (`Widget.elementId`). A nested id that ends in `[]` is a repeated one: it stands for
`[0]`, `[1]`, `[2]`, … in turn, counted apart for each text before the brackets.

Widgets form trees (`WidgetTree`). A widget's own fields are kept apart from the widgets inside it.
-/

namespace WidgetTemplates.Page

/-- A rendered widget, without the widgets inside it. The browser gets the name of its type, its state and its
configuration. `scope` is the id of the widget that receives its custom events, which are given with the methods that
handle them; `extensions` are the widgets that extend it; `bodyId` is the nested id of its body, empty when the body is
the root element itself; `domEvents` is what it listens to in the page, as the browser reads it; `counters` says how
often each repeated id has been used. -/
structure Widget where
  id : String
  type : Option String := none
  state : Option Json.Members := none
  config : Option Json.Members := none
  scope : Option String := none
  events : List (String × String) := []
  extensions : List String := []
  bodyId : Option String := none
  domEvents : List String := []
  hasDomEvents : Bool := false
  counters : List (String × Nat) := []
deriving Repr, Inhabited

namespace Widget

/-- How often the repeated id of a base has been used. -/
def uses (base : String) : List (String × Nat) → Nat
  | [] => 0
  | (b, n) :: rest => if b == base then n else uses base rest

/-- Counts one more use of the repeated id of a base. -/
def countUse (base : String) : List (String × Nat) → List (String × Nat)
  | [] => [(base, 1)]
  | (b, n) :: rest => if b == base then (b, n + 1) :: rest else (b, n) :: countUse base rest

/-- The base of a repeated id. -/
def repeatedBase? (nested : String) : Option String :=
  (Text.dropEnd? ['[', ']'] nested.toList).map String.ofList

/-- The id of an element inside the widget; without a nested id, that of the widget itself. -/
def elementId (w : Widget) : Option String → String × Widget
  | none => (w.id, w)
  | some nested =>
    match repeatedBase? nested with
    | none => (w.id ++ "-" ++ nested, w)
    | some base =>
      (w.id ++ "-" ++ base ++ "[" ++ toString (uses base w.counters) ++ "]",
        { w with counters := countUse base w.counters })

/-- The custom events as one text: the scope, and each event with its method. -/
def eventsText (w : Widget) : String :=
  Text.joinWith "," (w.scope.getD "" :: w.events.flatMap fun e => [e.1, e.2])

/-- The attributes of the root element, if the widget has a type. One without a value is just on. -/
def attributes? (w : Widget) : Option (List (String × Option String)) :=
  w.type.map fun type =>
    [("data-widget", some type)]
      ++ (if w.hasDomEvents then [("data-w-on", some "1")] else [])
      ++ (if w.events.isEmpty then [] else [("data-w-events", some w.eventsText)])
      ++ (if w.extensions.isEmpty then []
          else [("data-w-extend", some (Text.joinWith "," w.extensions))])
      ++ (match w.bodyId with
          | none => []
          | some id => [("data-w-body", if id.isEmpty then none else some id)])

/-- The hidden element that tells the browser what the widget listens to; nothing if that is nothing. -/
def domEventsElement (w : Widget) : String × Widget :=
  if w.domEvents.isEmpty then ("", w)
  else
    let (id, w) := w.elementId (some "$on")
    ("<span id=\"" ++ id ++ "\" data-on=\"" ++ Text.joinWith "," w.domEvents ++ "\"></span>", w)

end Widget

/-- A widget with the widgets inside it. -/
inductive WidgetTree where
  | node (widget : Widget) (children : List WidgetTree)
deriving Repr, Inhabited

namespace WidgetTree

/-- The widget at the root. -/
def widget : WidgetTree → Widget
  | .node w _ => w

/-- The trees right below the root. -/
def children : WidgetTree → List WidgetTree
  | .node _ cs => cs

/-- The tree with the widget at the root replaced. -/
def withWidget (t : WidgetTree) (w : Widget) : WidgetTree := .node w t.children

/-- The tree with another one added below the root, after those that are there. -/
def add (t : WidgetTree) (child : WidgetTree) : WidgetTree := .node t.widget (t.children ++ [child])

end WidgetTree

end WidgetTemplates.Page
