import WidgetTemplates.Script.Expr
import WidgetTemplates.Template.Location

/-!
# The template tree

A template is a forest of elements, texts, expressions, loops and generated statements. An element holds,
besides its tag and attributes, the statements that run before and after it and the widget it is wrapped
in; its children are kept apart from these fields, so that a function on an element's own fields is plainly
one that leaves the children alone.
-/

namespace WidgetTemplates.Template

open Script (Expr Stmt)

/-- An attribute; one without a value is either on or absent. -/
structure Attribute where
  name : String
  value : Option Expr
deriving Repr, Inhabited

/-- The widget that an element is wrapped in: the function that creates it, and its type. -/
structure Binding where
  helper : Expr
  widgetType : Expr
deriving Repr, Inhabited

/-- An element without its children. A `custom` one renders another template; `before` and `after` are the statements
generated around it. -/
structure Element where
  tag : String
  attributes : List Attribute := []
  location : Location := .start
  custom : Bool := false
  before : List Stmt := []
  after : List Stmt := []
  widget : Option Binding := none
deriving Repr, Inhabited

/-- A node of a template. An `expression` is written out, a `loop` renders its body once for each item of its source,
and `code` is a generated statement. -/
inductive Node where
  | element (el : Element) (children : List Node)
  | text (value : String) (location : Location)
  | expression (expr : Expr) (location : Location)
  | loop (item : String) (source : Expr) (body : List Node) (location : Location)
  | code (stmt : Stmt)
deriving Repr, Inhabited

/-- Whether a text holds a hyphen, as the tags of other templates do. -/
def hasHyphen (tag : String) : Bool := tag.toList.contains '-'

namespace Element

/-- An element without attributes. -/
def named (tag : String) : Element := { tag, custom := hasHyphen tag }

/-- The attribute of a name; of several the first. -/
def find? (el : Element) (name : String) : Option Attribute :=
  el.attributes.find? (·.name == name)

/-- Whether there is an attribute of this name. -/
def has (el : Element) (name : String) : Bool := el.attributes.any (·.name == name)

/-- The value of an attribute; none when it is missing or has no value. -/
def value? (el : Element) (name : String) : Option Expr := (el.find? name).bind (·.value)

/-- The names of the attributes in order. -/
def names (el : Element) : List String := el.attributes.map (·.name)

/-- Attributes with the value of `name` set: in place, or at the end when the name is new. -/
def setIn (name : String) (value : Expr) : List Attribute → List Attribute
  | [] => [⟨name, some value⟩]
  | a :: rest => if a.name == name then ⟨name, some value⟩ :: rest else a :: setIn name value rest

/-- Sets the value of an attribute. -/
def set (el : Element) (name : String) (value : Expr) : Element :=
  { el with attributes := setIn name value el.attributes }

/-- Removes the first attribute of a name. -/
def remove (el : Element) (name : String) : Element :=
  { el with attributes := el.attributes.eraseP (·.name == name) }

/-- Adds an attribute at the end. -/
def add (el : Element) (name : String) (value : Option Expr) : Element :=
  { el with attributes := el.attributes ++ [⟨name, value⟩] }

/-- Adds a statement right before the element, after those that are there. -/
def insertBefore (el : Element) (stmt : Stmt) : Element := { el with before := el.before ++ [stmt] }

/-- Adds a statement right after the element, before those that are there. -/
def insertAfter (el : Element) (stmt : Stmt) : Element := { el with after := stmt :: el.after }

/-- Wraps the element in a widget. -/
def bind (el : Element) (binding : Binding) : Element := { el with widget := some binding }

end Element

/-- The elements that have no content and no end tag. -/
def voidTags : List String :=
  ["area", "base", "br", "col", "embed", "hr", "img", "input", "link", "meta", "param", "source",
   "track", "wbr"]

/-- Whether an element of this tag has no content. -/
def isVoid (tag : String) : Bool := voidTags.contains tag

end WidgetTemplates.Template
