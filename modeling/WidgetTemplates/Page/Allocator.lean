/-!
# Numbered ids

Ids that are a fixed text followed by a number, the numbers being handed out from zero on.
-/

namespace WidgetTemplates.Page

/-- A source of numbered ids: the text in front of every number, and the next number. -/
structure Allocator where
  stem : String := ""
  next : Nat := 0
deriving DecidableEq, Repr, Inhabited

namespace Allocator

/-- Takes the next number. -/
def takeNumber (a : Allocator) : Nat × Allocator := (a.next, { a with next := a.next + 1 })

/-- Takes the next id. -/
def takeId (a : Allocator) : String × Allocator :=
  let (n, a) := a.takeNumber
  (a.stem ++ toString n, a)

end Allocator

end WidgetTemplates.Page
