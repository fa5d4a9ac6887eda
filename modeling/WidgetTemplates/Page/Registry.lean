import WidgetTemplates.Page.Widget

/-!
# The registry of a page

While a page is rendered its widgets are recorded as a forest. A widget that is begun stays open until it
is ended; what is recorded meanwhile lies below it. Roots are pending until they have been written to the
page.
-/

namespace WidgetTemplates.Page

/-- The widgets of a page: the finished trees that lie below no other widget, in order, and how many of them have been
written; the open widgets, innermost first. -/
structure Registry where
  roots : List WidgetTree := []
  opened : List WidgetTree := []
  written : Nat := 0
deriving Repr, Inhabited

namespace Registry

/-- Begins a widget. -/
def begin (r : Registry) (t : WidgetTree) : Registry := { r with opened := t :: r.opened }

/-- Records a finished tree below the innermost open widget, or as a root. -/
def add (r : Registry) (t : WidgetTree) : Registry :=
  match r.opened with
  | [] => { r with roots := r.roots ++ [t] }
  | parent :: rest => { r with opened := parent.add t :: rest }

/-- Ends the innermost open widget, if there is one. -/
def finish? (r : Registry) : Option Registry :=
  match r.opened with
  | [] => none
  | t :: rest => some ({ r with opened := rest }.add t)

/-- What ending a widget that was never begun is reported as. -/
def finishWithoutBegin : String := "end_widget without begin_widget"

/-- The innermost open widget. -/
def current? (r : Registry) : Option WidgetTree := r.opened.head?

/-- Replaces the innermost open widget. -/
def replaceCurrent (r : Registry) (t : WidgetTree) : Registry :=
  match r.opened with
  | [] => r
  | _ :: rest => { r with opened := t :: rest }

/-- The roots that have not been written. -/
def pending (r : Registry) : List WidgetTree := r.roots.drop r.written

/-- Counts all roots as written. -/
def markWritten (r : Registry) : Registry := { r with written := r.roots.length }

end Registry

end WidgetTemplates.Page
