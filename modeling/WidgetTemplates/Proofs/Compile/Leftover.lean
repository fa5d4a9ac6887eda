import WidgetTemplates.Proofs.Compile.Placed
import WidgetTemplates.Proofs.Compile.Spent

/-!
# Widget attributes in the markup

Five attributes say what an element is to the widgets around it: `w-bind`, `w-id`, `w-for`, `w-extend` and `w-body`.
They mean nothing to a browser, and weaving takes them, wherever the element lies and whatever else is wrong with it,
with one exception: outside the widgets `w-body` is reported and stays. The main result says so for every element of a
template at once (`marks_weave`); the exception does occur (`body_mark_left_outside`).
-/

namespace WidgetTemplates.Compile

open Template (Element Node)

/-- The attributes that say what an element is to the widgets around it. -/
def markNames : List String := ["w-bind", "w-id", "w-for", "w-extend", "w-body"]

/-- Those of them that an element has. -/
def marks (el : Element) : List String := markNames.filter el.has

/-- Of a spent element at most the mark of a body slot is left. -/
theorem marks_of_spent {el : Element} (spent : Spent el) : marks el = if el.has "w-body" then ["w-body"] else [] := by
  have hbind : el.has "w-bind" = false := Element.find?_eq_none.mp spent.bind
  have hid : el.has "w-id" = false := Element.find?_eq_none.mp spent.id
  have hlabel : el.has "w-for" = false := Element.find?_eq_none.mp spent.label
  have hextend : el.has "w-extend" = false := Element.find?_eq_none.mp spent.extend
  simp only [marks, markNames, List.filter_cons, List.filter_nil, hbind, hid, hlabel, hextend, Bool.false_eq_true,
    if_false]

namespace Turn

variable (t : Turn)

/-- The mark of a body slot is left exactly outside the widgets. -/
theorem has_body_woven (distinct : t.el.names.Nodup) :
    t.woven.has "w-body" = (t.el.has "w-body" && !(t.bound || t.enclosed)) := by
  rw [← t.inWidget_eq_of_mem_stages t.entered_mem_stages]
  rcases hinside : t.entered.inWidget with _ | _
  · obtain ⟨-, hbody⟩ := t.left_woven hinside
    rw [Bool.not_false, Bool.and_true, Element.has_congr hbody]
  · obtain ⟨-, hbody⟩ := t.heard_woven distinct hinside
    rw [Bool.not_true, Bool.and_false]
    exact Element.find?_eq_none.mp hbody

/-- What is left of the mark of an element is `w-body`, exactly if the element has it and lies in no widget. -/
theorem marks_woven (distinct : t.el.names.Nodup) :
    marks t.woven = if t.el.has "w-body" && !t.placed.inside t.unit.opens then ["w-body"] else [] := by
  rw [marks_of_spent (t.spent_woven distinct), t.has_body_woven distinct, t.inside_placed rfl]

end Turn

/-- **Which widget attributes are left in the markup.** If no element of a forest lists an attribute name twice, weaving
leaves of the five attributes only the `w-body` of an element outside the widgets; every other one is taken from every
element, in a widget or not. -/
theorem marks_weave {u : CompileUnit} (closed : u.widgets = []) (nodes : List Node)
    (distinct : ∀ el ∈ elementsAll nodes, el.names.Nodup) :
    (elementsAll (weave u nodes).1).map marks = (placedAll u.opens nodes).map fun p =>
      if p.el.has "w-body" && !p.inside u.opens then ["w-body"] else [] := by
  rw [weave_eq closed, elementsAll_weaveForest, placedAll_eq closed false, List.map_map, List.map_map]
  apply List.map_congr_left
  intro t ht
  have hel : t.el ∈ elementsAll nodes := map_el_turnsAll false u nodes ▸ List.mem_map_of_mem ht
  obtain ⟨hsettings, hfiles⟩ := context_of_mem_turnsAll ht
  have hopens : t.unit.opens = u.opens := funext (opens_congr hsettings hfiles)
  rw [Function.comp_apply, t.marks_woven (distinct t.el hel), hopens]
  rfl

/-- A root with all five attributes between two elements with some of them: only the last one keeps its `w-body`. -/
theorem marks_weave_around_root :
    let nodes : List Node :=
      [.element { tag := "p", attributes := [⟨"w-id", none⟩, ⟨"w-extend", none⟩, ⟨"w-for", none⟩] }
        [.element { tag := "div", attributes := [⟨"w-body", none⟩, ⟨"w-for", none⟩, ⟨"w-extend", none⟩, ⟨"w-id", none⟩,
          ⟨"w-bind", some (.str "./w")⟩] } []],
      .element { tag := "p", attributes := [⟨"w-body", none⟩, ⟨"w-bind", none⟩] } []]
    (elementsAll (weave {} nodes).1).map marks = [[], [], ["w-body"]] := by
  intro nodes
  have distinct : ∀ el ∈ elementsAll nodes, el.names.Nodup := by decide
  exact (marks_weave rfl nodes distinct).trans rfl

/-- An element that is just the mark of a body slot keeps it when no widget is there. -/
theorem body_mark_left_outside :
    let nodes : List Node := [.element { tag := "div", attributes := [⟨"w-body", none⟩] } []]
    (∀ el ∈ elementsAll nodes, el.names.Nodup) ∧ ∃ el ∈ elementsAll (weave {} nodes).1, "w-body" ∈ el.names := by
  intro nodes
  refine ⟨by decide, { tag := "div", attributes := [⟨"w-body", none⟩] }, ?_, List.mem_singleton_self _⟩
  exact List.mem_singleton_self _

end WidgetTemplates.Compile
