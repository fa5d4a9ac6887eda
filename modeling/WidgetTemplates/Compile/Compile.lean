import WidgetTemplates.Compile.RenderModule
import WidgetTemplates.Compile.Weave
import WidgetTemplates.Template.Parse

/-!
# Compiling a template

From the text of a template to the text of its render module: reading, weaving the widgets in, printing.
Compiling never fails; diagnostics stand beside the module, those of reading first.
-/

namespace WidgetTemplates.Compile

open Template (Diagnostic Settings)

/-- A compiled template: the text of the render module, and what is wrong with the template. -/
structure Compiled where
  code : String
  diagnostics : List Diagnostic
deriving Repr

/-- Compiles a template; `files` are the files that its default widget is looked up in. -/
def compile (source : String) (settings : Settings) (files : Path.Files) : Compiled :=
  let parsed := Template.parse source settings
  let (nodes, u) := weave { settings, files } parsed.nodes
  let (m, u) := generate u nodes
  ⟨m.print, parsed.diagnostics ++ u.diagnostics⟩

end WidgetTemplates.Compile
