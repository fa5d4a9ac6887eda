import WidgetTemplates.Page.Failure
import WidgetTemplates.Page.Output

/-!
# Renderables

A renderer writes markup for some data to a page. A renderable runs its renderer on a fresh page each
time, so that runs do not see each other; the page of a run that succeeds still holds its widgets.
-/

namespace WidgetTemplates.Page

/-- A renderer with what every page that it renders starts from. `α` is its data, and `β` is what it tells its caller
whether it succeeds or not. -/
structure Renderable (α β : Type) where
  renderer : α → Output → β × Except Failure Output
  shared : Shared := {}

/-- Renders the data on a fresh page. -/
def Renderable.run {α β : Type} (r : Renderable α β) (data : α) : β × Except Failure Output :=
  r.renderer data { shared := r.shared }

end WidgetTemplates.Page
