/-!
# Failures

What keeps a whole template or a whole page from being finished, as opposed to the diagnostics of a
template.
-/

namespace WidgetTemplates.Page

/-- A failure: a template cannot be read, state or configuration cannot be encoded, or a renderer gives up. -/
inductive Failure where
  | parse (file message : String)
  | serialize (message : String)
  | render (message : String)
deriving DecidableEq, Repr

/-- The wording of a failure. -/
def Failure.message : Failure → String
  | .parse file message => "failed to parse template " ++ file ++ ": " ++ message
  | .serialize message => "failed to serialize widget data: " ++ message
  | .render message => "render failed: " ++ message

end WidgetTemplates.Page
