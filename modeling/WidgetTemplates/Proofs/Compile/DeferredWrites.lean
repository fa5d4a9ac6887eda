import WidgetTemplates.Proofs.Compile.OpenWidgets
import WidgetTemplates.Proofs.Compile.SettledId

/-!
# Deferred writes

An element inside a widget cannot write the attributes of the widget's root, which has been passed by then. It leaves
what is to be written with the open widget, and the root gets it when the widget is closed. What the rules for one
element leave there is `Turn.teach`; while a forest is woven, the innermost open widget is taught by the turns outside
the widgets that open in the forest, one after another, and by no others (`widgets_weaveForest`).

So what a root gets is determined by its own turns (`Turn.own`), which the main result spells out attribute by
attribute (`deferred_writes`).
-/

namespace WidgetTemplates.Compile

open Script (Expr Stmt)
open Template (Attribute Element Node)

namespace Turn

variable (t : Turn) {w : OpenWidget} {rest : List OpenWidget}

/-- Where the provided body goes if the element marks its place: a root says so by an empty text, any other element
by its nested id. -/
def place : Expr := if t.bound then .str "" else t.site.id.nested

/-- What the rules for the element leave with the open widget. -/
def teach (w : OpenWidget) (t : Turn) : OpenWidget :=
  let heard := { w with domEvents := w.domEvents || asksEvents t.el }
  if marksBody t.el then heard.set "body" t.place else heard

/-- At its site an element has taught the widget that contains it, and no other. -/
theorem widgets_site (opened : t.entered.unit.widgets = w :: rest) : t.site.unit.widgets = teach w t :: rest :=
  Site.widgets_applyRules opened (Site.honest_start t.el t.unit t.inLoop) rfl rfl

/-- An element that is not bound teaches the widget around it. -/
theorem widgets_site_of_loose (loose : t.bound = false) (opened : t.unit.widgets = w :: rest) :
    t.site.unit.widgets = teach w t :: rest :=
  t.widgets_site ((t.widgets_entered_of_loose loose).trans opened)

/-- A bound element opens a widget of its own type and teaches that one. -/
theorem widgets_site_of_bound (bound : t.bound = true) :
    ∃ a widgetType u, t.el.find? "w-bind" = some a ∧ t.unit.widgetTypeOf? a.value = some (widgetType, u) ∧
      t.site.unit.widgets =
        teach { tag := t.el.tag, location := t.el.location, widgetType } t :: t.unit.widgets := by
  obtain ⟨a, widgetType, u, ha, ht, hentered⟩ := t.widgets_entered_of_bound bound
  exact ⟨a, widgetType, u, ha, ht, t.widgets_site hentered⟩

/-- An element that is not bound gets no widget and leaves the open widgets as they are after its children. -/
theorem finished_of_loose (loose : t.bound = false) :
    t.finished.unit.widgets = t.inside.widgets ∧ t.woven.widget = t.el.widget := by
  rw [woven, t.finished_eq_handed loose]
  exact ⟨t.widgets_handed, t.widget_handed⟩

/-- A bound element is finished with what its widget has been taught, and its widget is closed. -/
theorem finished_of_bound (bound : t.bound = true) (opened : t.inside.widgets = w :: rest) :
    t.finished.unit.widgets = rest ∧
      ∃ el, t.woven = Site.finishRoot el w ∧ el.attributes = t.site.el.attributes := by
  rw [woven, t.finished_eq_leave bound, Site.leave_eq (t.widgets_handed.trans opened)]
  exact ⟨Site.widgets_importModule _ _ _, t.handed.el, rfl, t.attributes_handed⟩

end Turn

/-! ## What a forest leaves with the open widget -/

/-- **Only the turns outside the widgets that open in a forest teach the widget around it**, in document order. -/
theorem widgets_weaveForest {inLoop : Bool} {u : CompileUnit} {w : OpenWidget} {rest : List OpenWidget}
    (nodes : List Node) (opened : u.widgets = w :: rest) :
    (weaveForest inLoop u nodes).2.widgets = (looseTurnsAll inLoop u nodes).foldl Turn.teach w :: rest := by
  induction nodes using Template.forestInduction generalizing inLoop u w rest with
  | nil => exact opened
  | element el children more inside after =>
    let t : Turn := ⟨el, children, u, inLoop⟩
    have hnode : (weaveNode inLoop u (.element el children)).2.widgets =
        (looseTurns inLoop u (.element el children)).foldl Turn.teach w :: rest := by
      rw [looseTurns]
      change t.finished.unit.widgets = (if t.bound then [] else _).foldl Turn.teach w :: rest
      rcases hb : t.bound with _ | _
      · have hsite := t.widgets_site_of_loose hb opened
        rw [(t.finished_of_loose hb).1]
        exact inside hsite
      · -- the widget of the element is taught inside, and closed with it
        obtain ⟨a, widgetType, u', -, -, hsite⟩ := t.widgets_site_of_bound hb
        rw [(t.finished_of_bound hb (inside hsite)).1]
        exact opened
    rw [looseTurnsAll, List.foldl_append]
    exact after hnode
  | loop item source body location more inside after =>
    rw [looseTurnsAll, List.foldl_append]
    exact after (inside opened)
  | _ =>
    rename_i after
    exact after opened

/-! ## What a root gets -/

section Taught

variable (w : OpenWidget) (ts : List Turn)

/-- What elements teach a widget does not change its type. -/
theorem widgetType_foldl_teach : (ts.foldl Turn.teach w).widgetType = w.widgetType := by
  induction ts generalizing w with
  | nil => rfl
  | cons t rest ih =>
    rw [List.foldl_cons, ih, Turn.teach]
    split <;> rfl

/-- A widget asks for DOM events as soon as one of the elements does that teach it. -/
theorem domEvents_foldl_teach :
    (ts.foldl Turn.teach w).domEvents = (w.domEvents || ts.any fun t => asksEvents t.el) := by
  induction ts generalizing w with
  | nil => simp
  | cons t rest ih =>
    have hteach : (Turn.teach w t).domEvents = (w.domEvents || asksEvents t.el) := by
      rw [Turn.teach]
      split <;> rfl
    rw [List.foldl_cons, ih, hteach, List.any_cons, Bool.or_assoc]

/-- The turns that mark the place of a body. -/
def marking : List Turn := ts.filter fun t => marksBody t.el

/-- The marking elements among some are picked one by one. -/
theorem marking_cons (t : Turn) (rest : List Turn) :
    marking (t :: rest) = if marksBody t.el then t :: marking rest else marking rest :=
  List.filter_cons

variable {w} in
/-- The last mark decides what is pending. -/
theorem pending_foldl_teach (only : w.pending = [] ∨ ∃ e, w.pending = [("body", e)]) :
    (ts.foldl Turn.teach w).pending =
      ((marking ts).getLast?.map fun x => [("body", x.place)]).getD w.pending := by
  induction ts generalizing w with
  | nil => rfl
  | cons t rest ih =>
    rw [List.foldl_cons]
    rcases hmark : marksBody t.el with _ | _
    · have hkeep : (Turn.teach w t).pending = w.pending := by rw [Turn.teach, hmark]; rfl
      rw [ih (hkeep ▸ only), hkeep, marking_cons, hmark]
      rfl
    · have hset : (Turn.teach w t).pending = [("body", t.place)] := by
        rw [Turn.teach, hmark]
        rcases only with h | ⟨e, h⟩ <;> simp [OpenWidget.set, OpenWidget.setIn, h]
      rw [ih (.inr ⟨_, hset⟩), hset, marking_cons, if_pos hmark, List.getLast?_cons]
      rcases (marking rest).getLast? with _ | x <;> rfl

/-- A mark that no other one follows is the last one. -/
theorem getLast?_marking {front back : List Turn} {x : Turn} (marked : marksBody x.el = true)
    (unmarked : ∀ y ∈ back, marksBody y.el = false) : (marking (front ++ x :: back)).getLast? = some x := by
  have hback : back.filter (fun t => marksBody t.el) = [] :=
    List.filter_eq_nil_iff.mpr fun y hy => by simp [unmarked y hy]
  rw [marking, List.filter_append, List.filter_cons, if_pos marked, hback]
  simp

end Taught

/-- The attributes of a finished root, when at most the place of its body is pending. -/
theorem find?_finishRoot (el : Element) {w : OpenWidget} (only : w.pending = [] ∨ ∃ e, w.pending = [("body", e)]) :
    (Site.finishRoot el w).find? "id" = some ⟨"id", some (Expr.widget.member "id")⟩ ∧
      (Site.finishRoot el w).find? "data-widget" = some ⟨"data-widget", some (w.widgetType.member "name")⟩ ∧
      (Site.finishRoot el w).find? "data-w-on" =
        (if w.domEvents then some ⟨"data-w-on", some (.str "1")⟩ else el.find? "data-w-on") ∧
      (Site.finishRoot el w).find? "data-w-body" =
        (if let some e := w.value? "body" then some ⟨"data-w-body", some e⟩ else el.find? "data-w-body") := by
  have hne : ∀ (el : Element) {name other : String} (value : Expr), name ≠ other →
      (el.set other value).find? name = el.find? name := fun _ _ _ _ h => Element.find?_set_ne h
  have hbind : ∀ (el : Element) (b : Template.Binding) (name : String), (el.bind b).find? name = el.find? name :=
    fun _ _ _ => rfl
  rw [Site.finishRoot]
  rcases only with h | ⟨e, h⟩ <;> rcases hw : w.domEvents with _ | _ <;>
    simp [h, hbind, hne, Site.pendingName, OpenWidget.value?]

/-- The turns that a widget is taught by, other than that of its root, lie in a widget and open none. -/
theorem inside_of_mem_looseTurnsAll {inLoop : Bool} {u : CompileUnit} {nodes : List Node} {x : Turn}
    (opened : u.widgets ≠ []) (h : x ∈ looseTurnsAll inLoop u nodes) : x.bound = false ∧ x.unit.widgets ≠ [] := by
  induction nodes using Template.forestInduction generalizing inLoop u with
  | nil => cases h
  | element el children more inside after =>
    let t : Turn := ⟨el, children, u, inLoop⟩
    obtain ⟨w, rest, hw⟩ := List.exists_cons_of_ne_nil opened
    rw [looseTurnsAll, looseTurns] at h
    rcases List.mem_append.mp h with h | h
    · change x ∈ (if t.bound then [] else t :: looseTurnsAll inLoop t.site.unit children) at h
      rcases hb : t.bound with _ | _
      · rw [hb, if_neg (by simp)] at h
        rcases List.mem_cons.mp h with rfl | h
        · exact ⟨hb, opened⟩
        · refine inside ?_ h
          rw [t.widgets_site_of_loose hb hw]
          exact List.cons_ne_nil _ _
      · rw [hb] at h
        cases h
    · refine after ?_ h
      have hnode : (weaveForest inLoop u [.element el children]).2.widgets = _ := widgets_weaveForest _ hw
      change (weaveForest inLoop u [.element el children]).2.widgets ≠ []
      rw [hnode]
      exact List.cons_ne_nil _ _
  | loop item source body location more inside after =>
    obtain ⟨w, rest, hw⟩ := List.exists_cons_of_ne_nil opened
    rcases List.mem_append.mp h with h | h
    · exact inside opened h
    · refine after ?_ h
      have hbody : (weaveForest true u body).2.widgets = _ := widgets_weaveForest body hw
      rw [weaveNode, hbody]
      exact List.cons_ne_nil _ _
  | _ =>
    rename_i after
    exact after opened h

/-- After the children of a bound element a widget of its own type lies on top that has been taught by the elements that
belong to it: where its body goes is what the last mark says. -/
theorem Turn.inside_taught (t : Turn) (bound : t.bound = true) :
    ∃ w : OpenWidget, t.inside.widgets = w :: t.unit.widgets ∧
      (∃ a u, t.el.find? "w-bind" = some a ∧ t.unit.widgetTypeOf? a.value = some (w.widgetType, u)) ∧
      w.domEvents = t.own.any (fun x => asksEvents x.el) ∧
      w.pending = ((marking t.own).getLast?.map fun x => [("body", x.place)]).getD [] := by
  obtain ⟨a, widgetType, u, ha, ht, hsite⟩ := t.widgets_site_of_bound bound
  let new : OpenWidget := { tag := t.el.tag, location := t.el.location, widgetType }
  have hinside : t.inside.widgets = t.own.foldl Turn.teach new :: t.unit.widgets :=
    widgets_weaveForest t.children hsite
  refine ⟨t.own.foldl Turn.teach new, hinside, ⟨a, u, ha, ?_⟩, ?_, pending_foldl_teach t.own (.inl rfl)⟩
  · rw [widgetType_foldl_teach new t.own, ht]
  · exact domEvents_foldl_teach new t.own

/-- A bound element is finished with what its widget has been taught. -/
theorem Turn.finished_taught (t : Turn) (bound : t.bound = true) :
    ∃ (w : OpenWidget) (el : Element), t.woven = Site.finishRoot el w ∧ el.attributes = t.site.el.attributes ∧
      (∃ a u, t.el.find? "w-bind" = some a ∧ t.unit.widgetTypeOf? a.value = some (w.widgetType, u)) ∧
      w.domEvents = t.own.any (fun x => asksEvents x.el) ∧
      w.pending = ((marking t.own).getLast?.map fun x => [("body", x.place)]).getD [] := by
  obtain ⟨w, hinside, htaught⟩ := t.inside_taught bound
  obtain ⟨-, el, hwoven, hattributes⟩ := t.finished_of_bound bound hinside
  exact ⟨w, el, hwoven, hattributes, htaught⟩

/-- At most the place of its body is pending when a root is finished. -/
theorem pending_taught {own : List Turn} {w : OpenWidget}
    (pending : w.pending = ((marking own).getLast?.map fun x => [("body", x.place)]).getD []) :
    w.pending = [] ∨ ∃ e, w.pending = [("body", e)] := by
  rw [pending]
  rcases (marking own).getLast? with _ | x
  · exact .inl rfl
  · exact .inr ⟨x.place, rfl⟩

/-- The root of a widget of a type, as weaving leaves it.
* It is wrapped in the widget, has the id of the widget, and names its type.
* It listens to DOM events if one of its own elements asks for that (`events`).
* If none of its own elements marks a place for the body, it names none (`unmarked`). Otherwise it names the place that
the last one has marked: itself, or a nested id (`marked`). -/
structure Turn.RootWritten (t : Turn) (widgetType : Expr) : Prop where
  widget : t.woven.widget = some ⟨.ident "__widgetTag", widgetType⟩
  id : t.woven.find? "id" = some ⟨"id", some (Expr.widget.member "id")⟩
  type : t.woven.find? "data-widget" = some ⟨"data-widget", some (widgetType.member "name")⟩
  events : t.woven.find? "data-w-on" =
    if t.own.any (fun x => asksEvents x.el) then some ⟨"data-w-on", some (.str "1")⟩ else t.el.find? "data-w-on"
  unmarked : (∀ x ∈ t.own, marksBody x.el = false) → t.woven.find? "data-w-body" = t.el.find? "data-w-body"
  marked : ∀ front x back, t.own = front ++ x :: back → marksBody x.el = true →
    (∀ y ∈ back, marksBody y.el = false) →
      ∃ e, t.woven.find? "data-w-body" = some ⟨"data-w-body", some e⟩ ∧
        (front = [] ∧ e = .str "" ∨ front ≠ [] ∧ ∃ a, x.site.assigned = some a ∧ e = a.nested)

/-- A bound element is written as the root of a widget of its own type. -/
theorem Turn.rootWritten (t : Turn) (bound : t.bound = true) :
    ∃ a widgetType u, t.el.find? "w-bind" = some a ∧ t.unit.widgetTypeOf? a.value = some (widgetType, u) ∧
      t.RootWritten widgetType := by
  obtain ⟨w, el, hwoven, hattributes, ⟨a, u, ha, ht⟩, hdom, hpending⟩ := t.finished_taught bound
  obtain ⟨hid, htype, hevents, hbody⟩ := find?_finishRoot el (pending_taught hpending)
  have hfind : ∀ name, el.find? name = t.site.el.find? name := fun name => by
    rw [Element.find?, hattributes, Element.find?]
  rw [← hwoven] at hid htype hevents hbody
  refine ⟨a, w.widgetType, u, ha, ht, ?_, hid, htype, ?_, ?_, ?_⟩
  · rw [hwoven, (Site.finishRoot_frame el w).2.2.2]
  · rw [hevents, hdom, hfind]
    split
    · rfl
    · next hquiet =>
      -- none of its own elements asks, in particular not the root
      have hroot : asksEvents t.el = false := by
        rw [Turn.own, List.any_cons, Bool.not_eq_true, Bool.or_eq_false_iff] at hquiet
        exact hquiet.1
      exact Site.find?_applyRules_deferred (.inr ⟨rfl, hroot⟩)
  · intro unmarked
    have hnone : marking t.own = [] := List.filter_eq_nil_iff.mpr fun x hx => by simp [unmarked x hx]
    rw [hnone] at hpending
    rw [hbody, OpenWidget.value?, hpending, hfind]
    exact Site.find?_applyRules_deferred (.inl rfl)
  · intro front x back hown marked unmarked
    rw [hown, getLast?_marking marked unmarked] at hpending
    refine ⟨x.place, ?_, ?_⟩
    · rw [hbody, OpenWidget.value?, hpending]
      rfl
    · rcases front with _ | ⟨r, front⟩
      · obtain ⟨rfl, -⟩ := List.cons.inj hown
        exact .inl ⟨rfl, by rw [place, bound]; rfl⟩
      · have hmem : x ∈ looseTurnsAll t.inLoop t.site.unit t.children := by
          rw [(List.cons.inj hown).2]
          simp
        obtain ⟨a', widgetType', u', -, -, hsite⟩ := t.widgets_site_of_bound bound
        obtain ⟨hloose, hin⟩ := inside_of_mem_looseTurnsAll (by rw [hsite]; exact List.cons_ne_nil _ _) hmem
        have hmarked : x.el.has "w-body" = true := (Bool.and_eq_true_iff.mp marked).1
        obtain ⟨a, -, ha, -⟩ := Site.applyRules_slot (x.isRoot_site.trans hloose) hin hmarked
        refine .inr ⟨List.cons_ne_nil _ _, a, ha, ?_⟩
        rw [place, hloose, site, Site.id_of_settled ha]
        rfl

/-- **Deferred writes reach the right root.** Weaving a template wraps exactly its bound elements in widgets, each in
one of its own type, and each root gets what the elements that belong to it ask for, and nothing else. -/
theorem deferred_writes (u : CompileUnit) (nodes : List Node) :
    elementsAll nodes = (turnsAll false u nodes).map Turn.el ∧
      elementsAll (weave u nodes).1 = (turnsAll false u nodes).map Turn.woven ∧
      ∀ t ∈ turnsAll false u nodes,
        if t.bound then
          ∃ a widgetType u', t.el.find? "w-bind" = some a ∧ t.unit.widgetTypeOf? a.value = some (widgetType, u') ∧
            t.RootWritten widgetType
        else t.woven.widget = t.el.widget := by
  refine ⟨(map_el_turnsAll false u nodes).symm, elementsAll_weaveForest false u nodes, ?_⟩
  intro t _
  split
  · next hbound => exact t.rootWritten hbound
  · next hloose => exact (t.finished_of_loose (by simpa using hloose)).2

/-- A root inside a root: the outer one listens for its own element and names the place marked last outside the inner
one, which names the place marked inside and listens for nothing. -/
theorem deferred_writes_of_nested_roots :
    let nodes : List Node :=
      [.element { tag := "div", attributes := [⟨"w-bind", some (.str "./w")⟩] }
        [.element { tag := "p", attributes := [⟨"w-onclick", some (.str "go")⟩, ⟨"w-body", none⟩] } [],
          .loop "x" (.ident "xs") [.element { tag := "li", attributes := [⟨"w-body", none⟩] } []] .start,
          .element { tag := "ul", attributes := [⟨"w-bind", some (.str "./x")⟩] }
            [.element { tag := "li", attributes := [⟨"w-body", none⟩] } []]]]
    ∃ outer ∈ turnsAll false {} nodes, ∃ inner ∈ turnsAll false {} nodes,
      outer.el.tag = "div" ∧ outer.woven.find? "data-w-on" = some ⟨"data-w-on", some (.str "1")⟩ ∧
        outer.woven.find? "data-w-body" = some ⟨"data-w-body", some (.str "1")⟩ ∧
        inner.el.tag = "ul" ∧ inner.woven.find? "data-w-on" = none ∧
          inner.woven.find? "data-w-body" = some ⟨"data-w-body", some (.str "2")⟩ := by
  intro nodes
  obtain ⟨-, -, honoured⟩ := deferred_writes {} nodes
  -- the turns are those of the `div`, the `p`, the first `li`, the `ul` and the second `li`
  obtain ⟨outer, p, li, inner, last, hturns, ⟨htag, hbound, hown, hasks, hmarks, hid⟩,
      htag', hbound', hown', hasks', hfree', hmarks', hid'⟩ :
      ∃ outer p li inner last, turnsAll false {} nodes = [outer, p, li, inner, last] ∧
        (outer.el.tag = "div" ∧ outer.bound = true ∧ outer.own = [outer, p, li] ∧
          (outer.own.any fun x => asksEvents x.el) = true ∧
            marksBody li.el = true ∧ li.site.assigned = some (.numbered 1 false)) ∧
          inner.el.tag = "ul" ∧ inner.bound = true ∧ inner.own = [inner, last] ∧
            (inner.own.any fun x => asksEvents x.el) = false ∧ inner.el.find? "data-w-on" = none ∧
              marksBody last.el = true ∧ last.site.assigned = some (.numbered 2 false) :=
    ⟨_, _, _, _, _, rfl, ⟨rfl, rfl, rfl, rfl, rfl, rfl⟩, rfl, rfl, rfl, rfl, rfl, rfl, rfl⟩
  have houter := honoured outer (by simp [hturns])
  have hinner := honoured inner (by simp [hturns])
  rw [if_pos hbound] at houter
  rw [if_pos hbound'] at hinner
  obtain ⟨a, widgetType, u, -, -, houter⟩ := houter
  obtain ⟨a', widgetType', u', -, -, hinner⟩ := hinner
  refine ⟨outer, by simp [hturns], inner, by simp [hturns], htag, ?_, ?_, htag', ?_, ?_⟩
  · rw [houter.events, if_pos hasks]
  · obtain ⟨e, he, ⟨hnil, -⟩ | ⟨-, a, ha, rfl⟩⟩ := houter.marked [outer, p] li [] hown hmarks nofun
    · cases hnil
    · obtain rfl := Option.some.inj (hid.symm.trans ha)
      exact he
  · rw [hinner.events, hasks', if_neg (by simp), hfree']
  · obtain ⟨e, he, ⟨hnil, -⟩ | ⟨-, a, ha, rfl⟩⟩ := hinner.marked [inner] last [] hown' hmarks' nofun
    · cases hnil
    · obtain rfl := Option.some.inj (hid'.symm.trans ha)
      exact he

end WidgetTemplates.Compile
