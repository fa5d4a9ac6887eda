import WidgetTemplates.Proofs.Compile.OpenWidgets

/-!
# Which elements lie in a widget

Whether an element lies in a widget can be seen from the template: a widget is open at the turn of an element exactly
if an element around it opens one. `placedAll` lists the elements of a forest in document order, each with whether a
widget encloses it, and the turns of the elements agree with this list (`map_placed_turnsAll`). So what a turn makes of
its element can be said without the compile unit.
-/

namespace WidgetTemplates.Compile

open Template (Element Node Occurrence occurrencesAll)

/-- An element, and whether a widget encloses it, its own not counted. -/
structure PlacedElement where
  el : Element
  enclosed : Bool

/-- Whether the element lies in a widget, its own counted. -/
def PlacedElement.inside (opens : Element → Bool) (p : PlacedElement) : Bool := opens p.el || p.enclosed

/-- Whether a node is an element that opens a widget. -/
def opensWidget (opens : Element → Bool) : Node → Bool
  | .element el _ => opens el
  | _ => false

/-- The element of an occurrence. -/
def placed? (opens : Element → Bool) (o : Occurrence) : Option PlacedElement :=
  match o.node with
  | .element el _ => some ⟨el, o.above.any (opensWidget opens)⟩
  | _ => none

/-- The elements of a forest in document order. -/
def placedAll (opens : Element → Bool) (nodes : List Node) : List PlacedElement :=
  (occurrencesAll [] nodes).filterMap (placed? opens)

/-- Stacks that differ only in what is learned are empty together. -/
theorem SameStack.isEmpty_eq {ws ws' : List OpenWidget} (h : SameStack ws ws') : ws'.isEmpty = ws.isEmpty := by
  rw [Bool.eq_iff_iff, List.isEmpty_iff, List.isEmpty_iff, h.eq_nil]

namespace Turn

variable (t : Turn)

/-- Whether a widget encloses the element, its own not counted. -/
def enclosed : Bool := !t.unit.widgets.isEmpty

/-- The element with what encloses it. -/
def placed : PlacedElement := ⟨t.el, t.enclosed⟩

/-- An element is inside a widget exactly if it opens one or lies in one. -/
theorem inside_placed {opens : Element → Bool} (hopens : t.unit.opens = opens) :
    t.placed.inside opens = (t.bound || t.enclosed) := by
  rw [PlacedElement.inside, t.bound_eq, hopens]
  rfl

/-- After the rule for `w-bind` a widget is open if the element is bound or one was open before. -/
theorem isEmpty_of_mem_stages {s : Site} (h : s ∈ t.stages) : (!s.unit.widgets.isEmpty) = (t.bound || t.enclosed) := by
  rw [(t.sameStack_of_mem_stages h).isEmpty_eq, enclosed]
  rcases hb : t.bound with _ | _
  · rw [t.widgets_entered_of_loose hb, Bool.false_or]
  · obtain ⟨a, widgetType, u, -, -, hentered⟩ := t.widgets_entered_of_bound hb
    rw [hentered]
    rfl

/-- So the rules find out rightly whether the element lies in a widget. -/
theorem inWidget_eq_of_mem_stages {s : Site} (h : s ∈ t.stages) : s.inWidget = (t.bound || t.enclosed) := by
  rw [← t.isEmpty_of_mem_stages h, Bool.eq_iff_iff, Site.inWidget_iff, Bool.not_eq_true', List.isEmpty_eq_false_iff]

end Turn

/-- After a node a widget is open if one was open before, and the same elements open one. -/
theorem scope_weaveNode (inLoop : Bool) (u : CompileUnit) (node : Node) :
    (weaveNode inLoop u node).2.opens = u.opens ∧
      (weaveNode inLoop u node).2.widgets.isEmpty = u.widgets.isEmpty :=
  ⟨opens_weaveForest inLoop u [node], (weaveForest_woven inLoop u [node]).stack.isEmpty_eq⟩

/-- **The turns of a forest tell rightly which elements lie in a widget**, provided that the widgets that are open at
the start are those of the nodes above. -/
theorem map_placed_turnsAll {opens : Element → Bool} {above : List Node} {inLoop : Bool} {u : CompileUnit}
    (hopens : u.opens = opens) (henclosed : (!u.widgets.isEmpty) = above.any (opensWidget opens)) (nodes : List Node) :
    (turnsAll inLoop u nodes).map Turn.placed = (occurrencesAll above nodes).filterMap (placed? opens) := by
  induction nodes using Template.forestInduction generalizing above inLoop u with
  | nil => rfl
  | element el children rest inside after =>
    let t : Turn := ⟨el, children, u, inLoop⟩
    obtain ⟨hopens', hsame⟩ := scope_weaveNode inLoop u (.element el children)
    have hplaced : placed? opens ⟨.element el children, above⟩ = some t.placed := by
      rw [Turn.placed, Turn.enclosed, henclosed]
      rfl
    -- inside the element, the open widgets are those around it and, if it opens one, its own
    have hinside : (!t.site.unit.widgets.isEmpty) = (Node.element el children :: above).any (opensWidget opens) := by
      rw [t.isEmpty_of_mem_stages t.site_mem_stages, t.bound_eq, Turn.enclosed, henclosed, hopens]
      rfl
    rw [turnsAll, turns, occurrencesAll, Node.occurrences, List.map_append, List.filterMap_append, List.map_cons,
      List.filterMap_cons_some hplaced, inside (t.opens_site.trans hopens) hinside,
      after (hopens'.trans hopens) (hsame ▸ henclosed)]
  | loop item source body location rest inside after =>
    obtain ⟨hopens', hsame⟩ := scope_weaveNode inLoop u (.loop item source body location)
    have hinside : (!u.widgets.isEmpty) = (Node.loop item source body location :: above).any (opensWidget opens) :=
      henclosed
    rw [turnsAll, turns, occurrencesAll, Node.occurrences, List.map_append, List.filterMap_append,
      List.filterMap_cons_none (show placed? opens ⟨.loop item source body location, above⟩ = none from rfl),
      inside hopens hinside, after (hopens'.trans hopens) (hsame ▸ henclosed)]
  | _ =>
    rename_i after
    exact after hopens henclosed

/-- When no widget is open at the start, the elements are those of the turns. -/
theorem placedAll_eq {u : CompileUnit} (closed : u.widgets = []) (inLoop : Bool) (nodes : List Node) :
    placedAll u.opens nodes = (turnsAll inLoop u nodes).map Turn.placed :=
  (map_placed_turnsAll rfl (by rw [closed]; rfl) nodes).symm

end WidgetTemplates.Compile
