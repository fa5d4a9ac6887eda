import WidgetTemplates.Script.ExprJson
import WidgetTemplates.Template.Node

/-!
# The JSON form of the template tree

Every node is an object with its `type` and the fields of that type; an element outside a tree has no
`type`. Encoding writes every field. Decoding fills in what may be left out: places, the statements around
an element, its widget, and whether it is a custom one.
-/

namespace WidgetTemplates.Template

open Script (Expr Stmt)

namespace Attribute

/-- The JSON form of an attribute. -/
def toJson (a : Attribute) : Json :=
  .object [("name", .string a.name), ("value", .optional Expr.toJson a.value)]

/-- The attribute that a JSON value encodes. -/
def ofJson? (value : Json) : Option Attribute := do
  let fields ← Json.fields? ["name", "value"] value
  let name ← fields.required? "name" Json.asString?
  let value ← fields.nullable? "value" Expr.ofJson?
  some ⟨name, value⟩

end Attribute

namespace Binding

/-- The JSON form of a widget binding. -/
def toJson (b : Binding) : Json :=
  .object [("helper", b.helper.toJson), ("widgetType", b.widgetType.toJson)]

/-- The widget binding that a JSON value encodes. -/
def ofJson? (value : Json) : Option Binding := do
  let fields ← Json.fields? ["helper", "widgetType"] value
  let helper ← fields.required? "helper" Expr.ofJson?
  let widgetType ← fields.required? "widgetType" Expr.ofJson?
  some ⟨helper, widgetType⟩

end Binding

/-- The members of an encoded element whose children are encoded already. -/
def Element.toMembers (el : Element) (children : List Json) : Json.Members :=
  [("tag", .string el.tag),
   ("attributes", .array (el.attributes.map Attribute.toJson)),
   ("children", .array children),
   ("location", el.location.toJson),
   ("customTag", .bool el.custom),
   ("before", .array (el.before.map Stmt.toJson)),
   ("after", .array (el.after.map Stmt.toJson)),
   ("widget", .optional Binding.toJson el.widget)]

namespace Node

mutual

/-- The JSON form of a node. -/
def toJson : Node → Json
  | .element el children =>
    .object (("type", .string "element") :: el.toMembers (toJsonList children))
  | .text value location =>
    .object [("type", .string "text"), ("value", .string value), ("location", location.toJson)]
  | .expression expr location =>
    .object [("type", .string "expression"), ("expression", expr.toJson),
      ("location", location.toJson)]
  | .loop item source body location =>
    .object [("type", .string "loop"), ("item", .string item), ("source", source.toJson),
      ("body", .array (toJsonList body)), ("location", location.toJson)]
  | .code stmt => .object [("type", .string "code"), ("code", stmt.toJson)]

/-- The JSON forms of several nodes. -/
def toJsonList : List Node → List Json
  | [] => []
  | node :: rest => toJson node :: toJsonList rest

end

/-- The field names of an element, in declaration order. -/
def elementFields : List String :=
  ["tag", "attributes", "children", "location", "customTag", "before", "after", "widget"]

/-- The element, without children, that the fields encode. -/
def elementOf? (fields : Json.Fields) : Option Element := do
  let tag ← fields.required? "tag" Json.asString?
  let attributes ← fields.required? "attributes" (Json.asList? Attribute.ofJson?)
  let location ← fields.withDefault? "location" .start Location.ofJson?
  let custom ← fields.withDefault? "customTag" false Json.asBool?
  let before ← fields.withDefault? "before" [] (Json.asList? Stmt.ofJson?)
  let after ← fields.withDefault? "after" [] (Json.asList? Stmt.ofJson?)
  let widget ← fields.withDefault? "widget" none (Json.asOptional? Binding.ofJson?)
  some { tag, attributes, location, custom, before, after, widget }

/-- Decodes the fields of a node of the given type; `inner` decodes the nodes inside it. -/
def ofFields? (type : String) (fields : List String → Option Json.Fields)
    (inner : Option (List Node)) : Option Node :=
  if type == "element" then do
    let el ← fields elementFields >>= elementOf?
    some (.element el (← inner))
  else if type == "text" then do
    let fields ← fields ["value", "location"]
    let value ← fields.required? "value" Json.asString?
    let location ← fields.withDefault? "location" .start Location.ofJson?
    some (.text value location)
  else if type == "expression" then do
    let fields ← fields ["expression", "location"]
    let expr ← fields.required? "expression" Expr.ofJson?
    let location ← fields.withDefault? "location" .start Location.ofJson?
    some (.expression expr location)
  else if type == "loop" then do
    let fields ← fields ["item", "source", "body", "location"]
    let item ← fields.required? "item" Json.asString?
    let source ← fields.required? "source" Expr.ofJson?
    let location ← fields.withDefault? "location" .start Location.ofJson?
    some (.loop item source (← inner) location)
  else if type == "code" then do
    let fields ← fields ["code"]
    let stmt ← fields.required? "code" Stmt.ofJson?
    some (.code stmt)
  else none

/-- The type of an encoded node. -/
def typeOf? : Json → Option String
  | .object members =>
    match Json.Members.get? "type" members with
    | some (.string type) => some type
    | _ => none
  | .array (.string type :: _) => some type
  | _ => none

/-- Where the nodes inside a node of a type are found: the member and its place in an array. -/
def innerField (type : String) : String × Nat :=
  if type == "loop" then ("body", 2) else ("children", 2)

mutual

/-- The node that a JSON value encodes. -/
def ofJson? : Json → Option Node
  | .object members =>
    match typeOf? (.object members) with
    | none => none
    | some type =>
      ofFields? type (fun names => Json.fields? names (.object members))
        (innerOfMembers? (innerField type).1 members)
  | .array items =>
    match typeOf? (.array items) with
    | none => none
    | some type =>
      ofFields? type (fun names => Json.fields? names (.array (items.drop 1)))
        (innerOfItems? ((innerField type).2 + 1) items)
  | _ => none

/-- The nodes in the member of a name. -/
def innerOfMembers? (name : String) : List (String × Json) → Option (List Node)
  | [] => none
  | (key, value) :: rest => if key == name then ofItems? value else innerOfMembers? name rest

/-- The nodes in the item at an index. -/
def innerOfItems? : Nat → List Json → Option (List Node)
  | _, [] => none
  | 0, item :: _ => ofItems? item
  | n + 1, _ :: rest => innerOfItems? n rest

/-- The nodes of an encoded list. -/
def ofItems? : Json → Option (List Node)
  | .array items => ofJsonList? items
  | _ => none

/-- The nodes that the items of a list encode. -/
def ofJsonList? : List Json → Option (List Node)
  | [] => some []
  | item :: rest => do
    let node ← ofJson? item
    let nodes ← ofJsonList? rest
    some (node :: nodes)

end

/-- The element with its children that a JSON value without a `type` encodes. -/
def elementOfJson? (value : Json) : Option (Element × List Node) := do
  let fields ← Json.fields? elementFields value
  let el ← elementOf? fields
  let children ← fields.required? "children" ofItems?
  some (el, children)

end Node

/-- The JSON form of an element outside a tree. -/
def Element.toJson (el : Element) (children : List Node) : Json :=
  .object (el.toMembers (Node.toJsonList children))

end WidgetTemplates.Template
