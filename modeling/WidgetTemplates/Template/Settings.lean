import WidgetTemplates.Json.Decode
import WidgetTemplates.Path.Basic
import WidgetTemplates.Template.Node

/-!
# Settings of a template

What is known about a template besides its text: its file, the directory that is searched for its default
widget, the module that helpers are required from, and the tags that count as custom ones.
-/

namespace WidgetTemplates.Template

/-- The module that helpers are required from unless the settings name another. -/
def defaultWidgetsModule : String := "marko-widgets"

/-- The settings of one template: its file as diagnostics name it, the directory that is searched for the default
widget, the module that helpers are required from, and the tags without a hyphen that count as custom. -/
structure Settings where
  filePath : String := ""
  dirname : Option String := none
  widgetsModule : String := defaultWidgetsModule
  customTags : List String := []
deriving Repr, Inhabited

namespace Settings

/-- The settings of the template at a path. -/
def forFile (path : String) : Settings := { filePath := path, dirname := Path.parent? path }

/-- Whether elements of this tag render another template. -/
def isCustomTag (s : Settings) (tag : String) : Bool := hasHyphen tag || s.customTags.contains tag

/-- The JSON form of settings. -/
def toJson (s : Settings) : Json :=
  .object [("filePath", .string s.filePath), ("dirname", .optional .string s.dirname),
    ("widgetsModule", .string s.widgetsModule), ("customTags", .strings s.customTags)]

/-- The settings that a JSON value encodes. -/
def ofJson? (value : Json) : Option Settings := do
  let fields ← Json.fields? ["filePath", "dirname", "widgetsModule", "customTags"] value
  let filePath ← fields.withDefault? "filePath" "" Json.asString?
  let dirname ← fields.withDefault? "dirname" none (Json.asOptional? Json.asString?)
  let widgetsModule ← fields.withDefault? "widgetsModule" defaultWidgetsModule Json.asString?
  let customTags ← fields.withDefault? "customTags" [] (Json.asList? Json.asString?)
  some { filePath, dirname, widgetsModule, customTags }

end Settings

end WidgetTemplates.Template
