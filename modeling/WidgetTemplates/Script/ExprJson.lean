import WidgetTemplates.Json.Decode
import WidgetTemplates.Script.Expr

/-!
# The JSON form of generated script

An expression is an object with its `kind` and, unless it is the literal `null`, its `value`. A statement
is an object with its `kind` and the fields of that kind.
-/

namespace WidgetTemplates.Script

namespace Expr

/-- An expression of a kind with its value. -/
def tagged (kind : String) (value : Json) : Json :=
  .object [("kind", .string kind), ("value", value)]

mutual

/-- The JSON form of an expression. -/
def toJson : Expr → Json
  | .ident name => tagged "identifier" (.string name)
  | .member object property => tagged "member" (.array [toJson object, .string property])
  | .call callee args => tagged "call" (.array [toJson callee, .array (toJsonList args)])
  | .str value => tagged "str" (.string value)
  | .null => .object [("kind", .string "null")]
  | .array items => tagged "array" (.array (toJsonList items))
  | .concat parts => tagged "concat" (.array (toJsonList parts))
  | .raw code => tagged "raw" (.string code)

/-- The JSON forms of a list of expressions. -/
def toJsonList : List Expr → List Json
  | [] => []
  | e :: rest => toJson e :: toJsonList rest

end

/-- The kind of an encoded expression and its value, which an object may leave out. -/
def untag? : Json → Option (String × Option Json)
  | .object members =>
    match Json.Members.get? "kind" members with
    | some (.string kind) => some (kind, Json.Members.get? "value" members)
    | _ => none
  | .array [.string kind, value] => some (kind, some value)
  | _ => none

mutual

/-- The expression that a JSON value encodes. An object may hold further members. -/
def ofJson? : Json → Option Expr
  | .object members => ofTagged? (untag? (.object members)) members
  | .array items => ofPair? items
  | _ => none

/-- Decodes an object by finding its value among the members. -/
def ofTagged? (head : Option (String × Option Json)) : List (String × Json) → Option Expr
  | [] =>
    match head with
    | some ("null", none) => some .null
    | _ => none
  | (key, value) :: rest =>
    if key == "value" then
      match head with
      | some (kind, some _) => ofKind? kind value
      | _ => none
    else ofTagged? head rest

/-- Decodes a kind followed by a value. -/
def ofPair? : List Json → Option Expr
  | [.string kind, value] => ofKind? kind value
  | _ => none

/-- Decodes the value of an expression of the given kind. -/
def ofKind? (kind : String) : Json → Option Expr
  | .string s =>
    if kind == "identifier" then some (.ident s)
    else if kind == "str" then some (.str s)
    else if kind == "raw" then some (.raw s)
    else none
  | .null => if kind == "null" then some .null else none
  | .array items =>
    if kind == "array" then (ofJsonList? items).map .array
    else if kind == "concat" then (ofJsonList? items).map .concat
    else if kind == "member" then ofMember? items
    else if kind == "call" then ofCall? items
    else none
  | _ => none

/-- Decodes an object and a property name. -/
def ofMember? : List Json → Option Expr
  | [object, .string property] => (ofJson? object).map (.member · property)
  | _ => none

/-- Decodes a callee and its arguments. -/
def ofCall? : List Json → Option Expr
  | [callee, .array args] => do
    let callee ← ofJson? callee
    let args ← ofJsonList? args
    some (.call callee args)
  | _ => none

/-- Decodes a list of expressions. -/
def ofJsonList? : List Json → Option (List Expr)
  | [] => some []
  | item :: rest => do
    let e ← ofJson? item
    let es ← ofJsonList? rest
    some (e :: es)

end

end Expr

namespace Stmt

/-- The JSON form of a statement. -/
def toJson : Stmt → Json
  | .var name init =>
    .object [("kind", .string "var"), ("name", .string name), ("init", init.toJson)]
  | .expr e => .object [("kind", .string "expr"), ("expr", e.toJson)]

/-- Decodes the fields of a statement of the given kind. -/
def ofFields? (kind : String) (fields : List String → Option Json.Fields) : Option Stmt :=
  if kind == "var" then do
    let fields ← fields ["name", "init"]
    let name ← fields.required? "name" Json.asString?
    let init ← fields.required? "init" Expr.ofJson?
    some (.var name init)
  else if kind == "expr" then do
    let fields ← fields ["expr"]
    let e ← fields.required? "expr" Expr.ofJson?
    some (.expr e)
  else none

/-- The statement that a JSON value encodes. -/
def ofJson? (value : Json) : Option Stmt :=
  match value with
  | .object members =>
    match Json.Members.get? "kind" members with
    | some (.string kind) => ofFields? kind fun names => Json.fields? names value
    | _ => none
  | .array (.string kind :: items) => ofFields? kind fun names => Json.fields? names (.array items)
  | _ => none

end Stmt

end WidgetTemplates.Script
