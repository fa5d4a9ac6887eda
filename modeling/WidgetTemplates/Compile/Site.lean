import WidgetTemplates.Compile.Handover

/-!
# The element at hand

The rules for the widget attributes of one element work on a site: the element, the compile unit, and what
the rules have settled so far. The id of an element is settled at most once: an explicit one is taken from
`w-id`, any other is a number of the unit. Below a loop, and where a body can be rendered many times, the
id is computed when the template runs: its nested id ends in `[]`, and a variable declared before the
element holds the absolute id.
-/

namespace WidgetTemplates.Compile

open Script (Expr Stmt)
open Template (Element Node Problem)

/-- The settled id of an element: inside the containing widget (`nested`) and in the page (`absolute`). If it is
computed when the template runs, a variable holds it, which may have been declared already. -/
structure AssignedId where
  nested : Expr
  absolute : Expr
  varName : Option String
  declared : Bool
deriving Repr, Inhabited

/-- `widget.elId(id)`, the absolute form of a nested id; without one, the id of the widget itself. -/
def elementIdCall (id : Option Expr) : Expr := (Expr.widget.member "elId").call id.toList

namespace AssignedId

/-- An id that the template gives. -/
def explicit (id : Expr) : AssignedId := ⟨id, elementIdCall (some id), none, false⟩

/-- The id of a number, fixed or computed when the template runs. -/
def numbered (n : Nat) (repeated : Bool) : AssignedId :=
  if repeated then
    let varName := "__widgetId" ++ toString n
    ⟨.str (toString n ++ "[]"), .ident varName, some varName, false⟩
  else
    let nested := Expr.str (toString n)
    ⟨nested, elementIdCall (some nested), none, false⟩

/-- The declaration of the variable that holds the absolute id. -/
def declaration? (a : AssignedId) : Option Stmt :=
  a.varName.map fun name => .var name (elementIdCall (some a.nested))

end AssignedId

/-- The element at hand. `appended` are statements that run after its children. `inLoop` says whether it lies below a
loop, `isRoot` whether it is the root of a widget. Its id may be settled (`assigned`), and something may have been
handed over to the next widget. -/
structure Site where
  el : Element
  appended : List Stmt := []
  unit : CompileUnit
  inLoop : Bool
  isRoot : Bool := false
  assigned : Option AssignedId := none
  handover : Option Handover := none
deriving Inhabited

namespace Site

/-- Reports a problem at the element. -/
def report (s : Site) (p : Problem) : Site := { s with unit := s.unit.report s.el.location p }

/-- The innermost open widget. -/
def containing? (s : Site) : Option OpenWidget := s.unit.containing?

/-- Whether the element lies in a widget, or is the root of one. -/
def inWidget (s : Site) : Bool := s.containing?.isSome

/-- Changes what the next widget receives. -/
def handOver (s : Site) (f : Handover → Handover) : Site :=
  { s with handover := some (f (s.handover.getD {})) }

/-- Sets an attribute of the element. -/
def setAttr (s : Site) (name : String) (value : Expr) : Site := { s with el := s.el.set name value }

/-- Takes an attribute from the element: the attribute, and the site without it. -/
def takeAttr (s : Site) (name : String) : Option Template.Attribute × Site :=
  (s.el.find? name, { s with el := s.el.remove name })

/-! ## Ids -/

/-- The id of the element before it is entered: the value of `w-id`, which is consumed, or a number. -/
def chooseId (s : Site) (repeated : Bool) : AssignedId × Site :=
  match s.takeAttr "w-id" with
  | (some ⟨_, some id⟩, s) => (.explicit id, s)
  | (_, s) =>
    let (n, unit) := s.unit.takeId
    (.numbered n repeated, { s with unit })

/-- Declares the variable of the settled id before the element, unless that has been done. -/
def ensureVariable (s : Site) : Site :=
  match s.assigned with
  | some a =>
    match a.declared, a.declaration? with
    | false, some stmt =>
      { s with el := s.el.insertBefore stmt, assigned := some { a with declared := true } }
    | _, _ => s
  | none => s

/-- Settles the id, unless that has been done. An ordinary element gets its `id` attribute at once, after
the declaration of the variable that the attribute may refer to. -/
def assign (s : Site) (repeated : Bool) : Site :=
  match s.assigned with
  | some _ => s
  | none =>
    let (a, s) := s.chooseId repeated
    let s := { s with assigned := some a }
    if s.el.custom then s else s.ensureVariable.setAttr "id" a.absolute

/-- The settled id; the id of the widget before one is settled. -/
def id (s : Site) : AssignedId := s.assigned.getD (.explicit (.str ""))

/-- Settles the id and gives its nested form. -/
def nestedId (s : Site) : Expr × Site :=
  let s := s.assign s.inLoop
  (s.id.nested, s)

/-- Settles the id, declares its variable and gives its absolute form. -/
def absoluteId (s : Site) : Expr × Site :=
  let s := (s.assign s.inLoop).ensureVariable
  (s.id.absolute, s)

/-! ## Scope -/

/-- Whether the element lies in a widget; the problem is reported if it does not. -/
def requireWidget (s : Site) (p : Problem) : Bool × Site :=
  if s.inWidget then (true, s) else (false, s.report p)

end Site

end WidgetTemplates.Compile
