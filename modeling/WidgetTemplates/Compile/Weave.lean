import WidgetTemplates.Compile.Attributes

/-!
# Weaving widgets into a template

The rules for widget attributes are applied to every element of a forest, from the outside to the inside
and from the start to the end. A widget is open while the children of its root are woven; what the root
hands over and learns is written after its children.
-/

namespace WidgetTemplates.Compile

open Template (Node)

mutual

/-- Weaves a node. `inLoop` tells whether it lies below a loop. -/
def weaveNode (inLoop : Bool) (u : CompileUnit) : Node → Node × CompileUnit
  | .element el children =>
    let s := (Site.mk el [] u inLoop false none none).applyRules
    let (children, unit) := weaveForest inLoop s.unit children
    let s := { s with unit }.surround
    let s := if s.isRoot then s.leave else s
    (.element s.el (children ++ s.appended.map .code), s.unit)
  | .loop item source body location =>
    let (body, u) := weaveForest true u body
    (.loop item source body location, u)
  | node => (node, u)

/-- Weaves a forest. -/
def weaveForest (inLoop : Bool) (u : CompileUnit) : List Node → List Node × CompileUnit
  | [] => ([], u)
  | node :: rest =>
    let (node, u) := weaveNode inLoop u node
    let (rest, u) := weaveForest inLoop u rest
    (node :: rest, u)

end

/-- Weaves a whole template. No widget is open afterwards. -/
def weave (u : CompileUnit) (nodes : List Node) : List Node × CompileUnit :=
  let (nodes, u) := weaveForest false u nodes
  (nodes, if u.widgets.isEmpty then u else u.blame .openAtEnd)

end WidgetTemplates.Compile
