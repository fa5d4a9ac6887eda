import WidgetTemplates.Page.Widget

/-!
# Collecting widgets

The browser brings widgets to life from a list of ids, children before their parents, and from two stores
that map ids to states and to configurations.
-/

namespace WidgetTemplates.Page

/-- What the browser gets to know about a forest of widgets: the ids, children first, the states and the
configurations. -/
structure Collected where
  ids : List String := []
  state : Json.Members := []
  config : Json.Members := []
deriving Repr, Inhabited

namespace Collected

/-- A store with the entry of a widget, if it has one. -/
def store (id : String) (value : Option Json.Members) (entries : Json.Members) : Json.Members :=
  match value with
  | some members => Json.Members.insert id (.object members) entries
  | none => entries

/-- Adds one widget. -/
def add (c : Collected) (w : Widget) : Collected :=
  ⟨c.ids ++ [w.id], store w.id w.state c.state, store w.id w.config c.config⟩

/-- The ids as one text. -/
def idText (c : Collected) : String := Text.joinWith "," c.ids

/-- Whether there is nothing to bring to life. A single empty id counts as nothing. -/
def isEmpty (c : Collected) : Bool := c.idText.isEmpty

end Collected

mutual

/-- The widgets of a tree, children before their parents. -/
def WidgetTree.postorder : WidgetTree → List Widget
  | .node w children => postorderAll children ++ [w]

/-- The widgets of a forest, children before their parents. -/
def postorderAll : List WidgetTree → List Widget
  | [] => []
  | t :: rest => t.postorder ++ postorderAll rest

end

/-- Collects a forest. -/
def collect (forest : List WidgetTree) : Collected := (postorderAll forest).foldl Collected.add {}

end WidgetTemplates.Page
