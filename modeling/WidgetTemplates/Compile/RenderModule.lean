import WidgetTemplates.Compile.CompileUnit
import WidgetTemplates.Markup.Escape

/-!
# The render module

A woven template is printed as a module with one render function. Static markup is gathered and
written in one call as late as possible (`Writer.flush`): before a statement, and at the start and the end
of a wrapper or a loop. The lines of the function are kept with their depth until the module is printed,
because printing the function may still declare variables.
-/

namespace WidgetTemplates.Compile

open Script (Expr Stmt)
open Template (Attribute Element Node)

/-- A line of the render function, and how deep it is indented. -/
structure Line where
  depth : Nat
  text : String
deriving DecidableEq, Repr

/-- The render function under construction: the finished lines, the depth of the next line, and the static markup that
is not written yet. -/
structure Writer where
  unit : CompileUnit
  lines : List Line := []
  depth : Nat := 1
  pending : String := ""
deriving Inhabited

namespace Writer

/-- Adds a line. -/
def line (w : Writer) (text : String) : Writer := { w with lines := w.lines ++ [⟨w.depth, text⟩] }

/-- The line that writes static markup. -/
def markupLine (markup : String) : String := "out.w(" ++ Script.quote markup ++ ");"

/-- Writes the static markup that has been gathered. -/
def flush (w : Writer) : Writer :=
  if w.pending.isEmpty then w else { w with pending := "" }.line (markupLine w.pending)

/-- Adds a statement. -/
def stmt (w : Writer) (s : Stmt) : Writer := w.flush.line s.print

/-- Adds several statements. -/
def stmts (w : Writer) (ss : List Stmt) : Writer := ss.foldl stmt w

/-- Gathers static markup. -/
def markup (w : Writer) (text : String) : Writer := { w with pending := w.pending ++ text }

/-- Opens a wrapper or a loop. -/
def indent (w : Writer) (text : String) : Writer :=
  let w := w.flush.line text
  { w with depth := w.depth + 1 }

/-- Closes a wrapper or a loop. -/
def dedent (w : Writer) (text : String) : Writer :=
  let w := w.flush
  { w with depth := w.depth - 1 }.line text

/-- Adds the statement that writes what a function of the markup helpers makes of the arguments. -/
def helperCall (w : Writer) (function : String) (args : List Expr) : Writer :=
  let w := { w with unit := w.unit.importModule "__markoHelpers" "marko/runtime/html/helpers" }
  let call := ((Expr.ident "__markoHelpers").member function).call args
  w.stmt (.expr ((Expr.out.member "w").call [call]))

/-- An attribute. -/
def writeAttr (w : Writer) (a : Attribute) : Writer :=
  match a.value with
  | none => w.markup (" " ++ a.name)
  | some (.str value) => w.markup (" " ++ a.name ++ "=\"" ++ Markup.escapeValue value ++ "\"")
  | some value => w.helperCall "a" [.str a.name, value]

/-- What comes before the children of an element. -/
def openElement (w : Writer) (el : Element) : Writer :=
  let w := w.stmts el.before
  let w := match el.widget with
    | none => w
    | some b =>
      w.indent (b.helper.print ++ "(out, " ++ b.widgetType.print ++ ", function (widget) \x7b")
  -- the start tag is static markup up to the first attribute with a computed value
  (el.attributes.foldl writeAttr (w.markup ("<" ++ el.tag))).markup ">"

/-- What comes after the children of an element. -/
def closeElement (w : Writer) (el : Element) : Writer :=
  let w := if Template.isVoid el.tag then w else w.markup ("</" ++ el.tag ++ ">")
  let w := match el.widget with
    | none => w
    | some _ => w.dedent "\x7d);"
  w.stmts el.after

/-- The source of a loop as an operand. -/
def loopSource : Expr → String
  | .raw code => "(" ++ code ++ ")"
  | e => e.print

/-- The header of a loop. -/
def loopHeader (item : String) (source : Expr) : String :=
  "(" ++ loopSource source ++ " || []).forEach(function (" ++ item ++ ") \x7b"

mutual

/-- A node. -/
def node (w : Writer) : Node → Writer
  | .element el children =>
    let w := w.openElement el
    let w := if Template.isVoid el.tag then w else nodes w children
    w.closeElement el
  | .text value _ => w.markup (Markup.escapeText value)
  | .expression expr _ => w.helperCall "x" [expr]
  | .loop item source body _ => (nodes (w.indent (loopHeader item source)) body).dedent "\x7d);"
  | .code s => w.stmt s

/-- A forest. -/
def nodes (w : Writer) : List Node → Writer
  | [] => w
  | n :: rest => nodes (node w n) rest

end

end Writer

/-- A finished module: the variables at the top and the lines of the render function. -/
structure RenderModule where
  declarations : List Declaration
  body : List Line
deriving DecidableEq, Repr

namespace RenderModule

/-- The text of a line. -/
def printLine (l : Line) : String :=
  String.ofList (List.replicate (2 * l.depth) ' ') ++ l.text ++ "\n"

/-- The text of a declaration. -/
def printDeclaration (d : Declaration) : String := "var " ++ d.name ++ " = " ++ d.code ++ ";\n"

/-- The text of a module. -/
def print (m : RenderModule) : String :=
  "\"use strict\";\n" ++ String.join (m.declarations.map printDeclaration)
    ++ "module.exports = function render(data, out) \x7b\n"
    ++ String.join (m.body.map printLine) ++ "\x7d;\n"

end RenderModule

/-- The module of a woven template, and the unit with all that the module declares. -/
def generate (u : CompileUnit) (nodes : List Node) : RenderModule × CompileUnit :=
  let w := (Writer.nodes { unit := u } nodes).flush
  (⟨w.unit.declarations, w.lines⟩, w.unit)

end WidgetTemplates.Compile
