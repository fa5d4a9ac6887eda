import WidgetTemplates.Page.Allocator
import WidgetTemplates.Page.Registry

/-!
# The output of a page

The text of a page that is being rendered, with all that the parts of the page share: the nonce of its
scripts, its registry, and its source of widget ids. The registry and the ids come into being when they
are first used.
-/

namespace WidgetTemplates.Page

/-- What the parts of a page share: the nonce that scripts carry, the widgets of the page, what widget ids start with,
and the source of widget ids. -/
structure Shared where
  nonce : Option String := none
  registry : Option Registry := none
  idStem : Option String := none
  ids : Option Allocator := none
deriving Repr, Inhabited

/-- What widget ids start with unless the page says otherwise. -/
def defaultIdStem : String := "w"

/-- A page that is being rendered: the text so far, and what its parts share. -/
structure Output where
  text : String := ""
  shared : Shared := {}
deriving Repr, Inhabited

namespace Output

/-- Writes a text. -/
def write (o : Output) (text : String) : Output := { o with text := o.text ++ text }

/-- The registry of the page. -/
def registry (o : Output) : Registry := o.shared.registry.getD {}

/-- Replaces the registry of the page. -/
def withRegistry (o : Output) (r : Registry) : Output :=
  { o with shared := { o.shared with registry := some r } }

/-- The next widget id. What ids start with is settled by the first one. -/
def uniqueId (o : Output) : String × Output :=
  let ids := o.shared.ids.getD { stem := o.shared.idStem.getD defaultIdStem }
  let (id, ids) := ids.takeId
  (id, { o with shared := { o.shared with ids := some ids } })

end Output

end WidgetTemplates.Page
