import WidgetTemplates.Path.Files
import WidgetTemplates.Template.Diagnostic
import WidgetTemplates.Template.Settings

/-!
# The state of a compile unit

One template is compiled from start to end with one state: the widgets that are open around the node at
hand (innermost first), the next unused number for element ids, the variables declared at the top of the
module, and the diagnostics.

An open widget keeps the attribute writes that elements inside it ask for; they reach its own element when
it is closed. Closing a widget when none is open is a mistake of the caller, which the unit remembers.
-/

namespace WidgetTemplates.Compile

open Script (Expr)
open Template (Location Problem Diagnostic Settings)

/-- A widget whose element encloses the node at hand: the tag of that element, where it stands, and the type of the
widget. Elements inside may ask for DOM events, and for attributes to be written on its element (`pending`, names
distinct). -/
structure OpenWidget where
  tag : String
  location : Location
  widgetType : Expr
  domEvents : Bool := false
  pending : List (String × Expr) := []
deriving Repr, Inhabited

namespace OpenWidget

/-- Writes with the value of `name` set: in place, or at the end when the name is new. -/
def setIn (name : String) (value : Expr) : List (String × Expr) → List (String × Expr)
  | [] => [(name, value)]
  | p :: rest => if p.1 == name then (p.1, value) :: rest else p :: setIn name value rest

/-- Asks for an attribute write. -/
def set (w : OpenWidget) (name : String) (value : Expr) : OpenWidget :=
  { w with pending := setIn name value w.pending }

/-- The value that is asked for. -/
def value? (w : OpenWidget) (name : String) : Option Expr :=
  (w.pending.find? (·.1 == name)).map (·.2)

end OpenWidget

/-- A variable declared at the top of the module, and the code of its value. -/
structure Declaration where
  name : String
  code : String
deriving DecidableEq, Repr

/-- A mistake in the pairing of calls: a widget is closed that was not opened, or one is open at the end of the
template. -/
inductive Misuse where
  | closeWithoutOpen
  | openAtEnd
deriving DecidableEq, Repr

/-- What a mistake is reported as. -/
def Misuse.message : Misuse → String
  | .closeWithoutOpen => "widget stack pop without push"
  | .openAtEnd => "widget stack not empty after transform"

/-- The state of a compile unit. `files` are the files that the default widget is looked up in; the open widgets stand
innermost first; `nextId` is the next unused number for element ids; variables and diagnostics stand in the order in
which they came up. Only the first mistake in the pairing of calls is kept. -/
structure CompileUnit where
  settings : Settings := {}
  files : Path.Files := {}
  widgets : List OpenWidget := []
  nextId : Nat := 0
  declarations : List Declaration := []
  diagnostics : List Diagnostic := []
  misuse : Option Misuse := none
deriving Inhabited

namespace CompileUnit

/-! ## Open widgets -/

/-- Opens a widget. -/
def openWidget (u : CompileUnit) (w : OpenWidget) : CompileUnit :=
  { u with widgets := w :: u.widgets }

/-- The innermost open widget. -/
def containing? (u : CompileUnit) : Option OpenWidget := u.widgets.head?

/-- Changes the innermost open widget. -/
def modifyContaining (u : CompileUnit) (f : OpenWidget → OpenWidget) : CompileUnit :=
  match u.widgets with
  | [] => u
  | w :: rest => { u with widgets := f w :: rest }

/-- Closes the innermost open widget. -/
def closeWidget (u : CompileUnit) : Except Misuse (OpenWidget × CompileUnit) :=
  match u.widgets with
  | [] => .error .closeWithoutOpen
  | w :: rest => .ok (w, { u with widgets := rest })

/-- Remembers a mistake, unless there is one already. -/
def blame (u : CompileUnit) (m : Misuse) : CompileUnit :=
  { u with misuse := u.misuse.or (some m) }

/-! ## Numbers and declarations -/

/-- Takes the next number for element ids. -/
def takeId (u : CompileUnit) : Nat × CompileUnit := (u.nextId, { u with nextId := u.nextId + 1 })

/-- Declares a variable. A name that is declared already keeps its first declaration. -/
def declare (u : CompileUnit) (name code : String) : CompileUnit :=
  if u.declarations.any (·.name == name) then u
  else { u with declarations := u.declarations ++ [⟨name, code⟩] }

/-- The first of the names `base`, `base2`, `base3`, … that is not declared. Among more names than there
are declarations one is free. -/
def freshName (u : CompileUnit) (base : String) : String :=
  let names := base :: (List.range u.declarations.length).map fun i => base ++ toString (i + 2)
  (names.find? fun n => !u.declarations.any (·.name == n)).getD base

/-- The variable with this code, declared under a fresh name unless there is one. -/
def declareOnce (u : CompileUnit) (base code : String) : Expr × CompileUnit :=
  match u.declarations.find? (·.code == code) with
  | some d => (.ident d.name, u)
  | none =>
    let name := u.freshName base
    (.ident name, u.declare name code)

/-- Declares a variable that holds a module. -/
def importModule (u : CompileUnit) (name path : String) : CompileUnit :=
  u.declare name ("require(" ++ Script.quote path ++ ")")

/-- The path that a module of the widgets runtime is required from. -/
def requirePath (u : CompileUnit) (target : String) : String :=
  match Text.dropStart? Template.defaultWidgetsModule.toList target.toList with
  | some rest => u.settings.widgetsModule ++ String.ofList rest
  | none => target

/-- Declares a helper of the widgets runtime. -/
def importHelper (u : CompileUnit) (name target : String) : CompileUnit :=
  u.importModule name (u.requirePath target)

/-! ## Diagnostics -/

/-- Reports a problem. -/
def report (u : CompileUnit) (location : Location) (problem : Problem) : CompileUnit :=
  { u with diagnostics := u.diagnostics ++ [.of u.settings.filePath location problem] }

/-! ## Widget modules -/

/-- The module of the default widget: the one that lies next to the template. -/
def defaultModule? (u : CompileUnit) : Option String :=
  match u.settings.dirname with
  | none => none
  | some dir =>
    if u.files.exist (Path.join dir "widget.js") then some "./widget"
    else if u.files.exist (Path.join dir "index.js") then some "./"
    else none

/-- The name of the widget in a module: its path, seen from the directory of the template when it is a
relative one. -/
def widgetName (u : CompileUnit) (path : String) : String :=
  match u.settings.dirname with
  | some dir =>
    if path.toList.head? == some '.' then
      let path' := match Text.dropStart? ['.', '/'] path.toList with
        | some rest => String.ofList rest
        | none => path
      Text.expand (fun c => if c == '\\' then ['/'] else [c]) (Path.join dir path')
    else path
  | none => path

/-- The code that describes the widget in a module. -/
def widgetTypeCode (u : CompileUnit) (path : String) : String :=
  "\x7bname: " ++ Script.quote (u.widgetName path) ++ ", def: function() \x7b return require("
    ++ Script.quote path ++ "); \x7d\x7d"

/-- The variable that describes the widget in a module. -/
def widgetType (u : CompileUnit) (path : String) : Expr × CompileUnit :=
  u.declareOnce "__widgetType" (u.widgetTypeCode path)

/-- The widget type that an attribute value names: a path that is not empty, any other expression as it
is, and the default widget otherwise, which need not exist. -/
def widgetTypeOf? (u : CompileUnit) (value : Option Expr) : Option (Expr × CompileUnit) :=
  let default? := u.defaultModule?.map u.widgetType
  match value with
  | some (.str path) => if path.isEmpty then default? else some (u.widgetType path)
  | none => default?
  | some e => some (e, u)

end CompileUnit

end WidgetTemplates.Compile
