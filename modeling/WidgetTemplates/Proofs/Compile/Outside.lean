import WidgetTemplates.Proofs.Compile.Reported

/-!
# Templates without a widget

Where no element has `w-bind` or `w-extend`, no widget is ever open, and all other widget attributes stand outside every
widget. The rules then take `w-id` and `w-for` and report the problems of the element, and that is all they do
(`Site.applyRules_outside`), so weaving maps `Element.stripped` over the elements and reports what is wrong with them
(`weave_outside`). No number is taken, nothing is declared, nothing is written.
-/

namespace WidgetTemplates.Template

mutual

/-- The node with every element in it changed by `f`. -/
def Node.mapElements (f : Element → Element) : Node → Node
  | .element el children => .element (f el) (mapElementsAll f children)
  | .loop item source body location => .loop item source (mapElementsAll f body) location
  | node => node

/-- The forest with every element in it changed by `f`. -/
def mapElementsAll (f : Element → Element) : List Node → List Node
  | [] => []
  | node :: rest => node.mapElements f :: mapElementsAll f rest

end

/-- A forest whose elements are all left as they are stays as it is. -/
theorem mapElementsAll_eq_self {f : Element → Element} {nodes : List Node}
    (fixed : ∀ el ∈ Compile.elementsAll nodes, f el = el) : mapElementsAll f nodes = nodes := by
  induction nodes using forestInduction with
  | nil => rfl
  | element el children rest inside after =>
    rw [Compile.elementsAll, Compile.elements, List.cons_append, List.forall_mem_cons, List.forall_mem_append] at fixed
    rw [mapElementsAll, Node.mapElements, fixed.1, inside fixed.2.1, after fixed.2.2]
  | loop item source body location rest inside after =>
    rw [Compile.elementsAll, Compile.elements, List.forall_mem_append] at fixed
    rw [mapElementsAll, Node.mapElements, inside fixed.1, after fixed.2]
  | _ =>
    rename_i after
    exact congrArg _ (after fixed)

/-- The element without the attributes that the rules take outside the widgets. -/
def Element.stripped (el : Element) : Element := (el.remove "w-id").remove "w-for"

end WidgetTemplates.Template

namespace WidgetTemplates.Compile

open Script (Expr)
open Template (Element Node Problem Diagnostic mapElementsAll)

/-! ## Reporting and nothing else -/

/-- The compile unit with further diagnostics. -/
def CompileUnit.reportAll (u : CompileUnit) (reports : List Diagnostic) : CompileUnit :=
  { u with diagnostics := u.diagnostics ++ reports }

@[simp] theorem CompileUnit.reportAll_nil (u : CompileUnit) : u.reportAll [] = u := by
  rw [reportAll, List.append_nil]

/-- Reports in a row are made together. -/
theorem CompileUnit.reportAll_append (u : CompileUnit) (reports more : List Diagnostic) :
    (u.reportAll reports).reportAll more = u.reportAll (reports ++ more) := by
  rw [reportAll, reportAll, reportAll, List.append_assoc]

namespace Site

variable {s : Site} {problems : List Problem}

/-- The site with further problems reported. -/
def reportAll (s : Site) (problems : List Problem) : Site :=
  { s with unit := s.unit.reportAll (problems.map (.of s.unit.settings.filePath s.el.location)) }

@[simp] theorem reportAll_nil (s : Site) : s.reportAll [] = s :=
  congrArg (fun u => { s with unit := u }) s.unit.reportAll_nil

/-- Problems in a row are reported together. -/
theorem reportAll_append (s : Site) (problems more : List Problem) :
    (s.reportAll problems).reportAll more = s.reportAll (problems ++ more) := by
  rw [reportAll, reportAll, reportAll, List.map_append, ← CompileUnit.reportAll_append]
  rfl

/-- Taking an attribute and reporting do not disturb each other. -/
theorem drop_reportAll (s : Site) (problems : List Problem) (name : String) :
    (s.reportAll problems).drop name = (s.drop name).reportAll problems :=
  rfl

/-! ## The rules outside the widgets -/

/-- Without `w-bind` its rule does nothing. -/
theorem bind_of_find?_none (h : s.el.find? "w-bind" = none) : s.bind = s := by
  rw [bind, takeAttr_eq, h]
  exact drop_of_find?_none h

/-- Without `w-extend` its rule does nothing. -/
theorem handleExtend_of_find?_none (h : s.el.find? "w-extend" = none) : s.handleExtend = s := by
  rw [handleExtend, takeAttr_eq, h]
  exact drop_of_find?_none h

section Outside

variable (outside : s.inWidget = false)
include outside

/-- Outside the widgets the rule for ids takes `w-id` and reports it. -/
theorem handleId_outside :
    s.handleId = (s.drop "w-id").reportAll ((Problem.outsideWidget "w-id").onlyIf (s.el.has "w-id")) := by
  rcases s.handleId_cases with ⟨has, h⟩ | ⟨has, ⟨-, h⟩ | ⟨inside, -⟩⟩
  · rw [h, has, drop_of_find?_none (Element.find?_eq_none.mpr has)]
    exact s.reportAll_nil.symm
  · rw [h, has]
    rfl
  · cases inside.symm.trans outside

/-- Outside the widgets the rule for events reports the first of them. -/
theorem handleEvents_reports :
    s.handleEvents = s.reportAll (s.eventAttributes.head?.map fun a => .outsideWidget a.name).toList := by
  rw [handleEvents_outside outside]
  rcases s.eventAttributes.head? with _ | a
  · exact s.reportAll_nil.symm
  · rfl

/-- Outside the widgets the rule for labels takes `w-for` and reports it. -/
theorem handleFor_outside :
    s.handleFor = (s.drop "w-for").reportAll ((Problem.outsideWidget "w-for").onlyIf (s.el.has "w-for")) := by
  rw [handleFor, takeAttr_eq, Element.has_eq_isSome]
  rcases s.el.find? "w-for" with _ | a
  · exact (reportAll_nil _).symm
  · dsimp only
    rw [requireWidget, inWidget_drop, outside]
    rfl

/-- Outside the widgets the rule for bodies reports the mark of a slot. -/
theorem handleBody_reports : s.handleBody = s.reportAll (Problem.bodyOutsideWidget.onlyIf (s.el.has "w-body")) := by
  rw [handleBody_outside outside]
  rcases s.el.has "w-body" with _ | _
  · exact s.reportAll_nil.symm
  · rfl

end Outside

end Site

/-- What is wrong with an element that no widget encloses and that neither opens nor extends one. -/
theorem CompileUnit.problems_outside {u : CompileUnit} {el : Element} (bind : el.find? "w-bind" = none)
    (extend : el.find? "w-extend" = none) :
    u.problems ⟨el, false⟩ =
      (Problem.outsideWidget "w-id").onlyIf (el.has "w-id") ++
        ((eventAttributes el.attributes).head?.map fun a => .outsideWidget a.name).toList ++
        (Problem.outsideWidget "w-for").onlyIf (el.has "w-for") ++
        Problem.bodyOutsideWidget.onlyIf (el.has "w-body") := by
  have hinside : PlacedElement.inside u.opens ⟨el, false⟩ = false := by
    rw [PlacedElement.inside, CompileUnit.opens, bind]
    rfl
  rw [CompileUnit.problems, hinside, CompileUnit.lacksDefault, CompileUnit.lacksDefault, asksDefault, asksDefault, bind,
    extend]
  simp only [Bool.false_and, Problem.onlyIf_false, Bool.not_false, Bool.and_true, List.nil_append, List.append_nil,
    Bool.false_eq_true, if_false]

/-- **Outside the widgets the rules take two attributes and report the problems of the element**, provided that it
neither opens nor extends a widget. -/
theorem Site.applyRules_outside {el : Element} {u : CompileUnit} (closed : u.widgets = [])
    (bind : el.find? "w-bind" = none) (extend : el.find? "w-extend" = none) (inLoop : Bool) :
    (start el u inLoop).applyRules = (start el.stripped u inLoop).reportAll (u.problems ⟨el, false⟩) := by
  let s := start el u inLoop
  have outside : ∀ {t : Site}, t.unit.widgets = [] → t.inWidget = false := fun h =>
    Bool.eq_false_iff.mpr fun hinside => inWidget_iff.mp hinside h
  let ids := (Problem.outsideWidget "w-id").onlyIf (el.has "w-id")
  let events := (s.eventAttributes.head?.map fun a => Problem.outsideWidget a.name).toList
  let labels := (Problem.outsideWidget "w-for").onlyIf (el.has "w-for")
  -- the site after each of the rules that do something
  let named := (s.drop "w-id").reportAll ids
  let heard := (s.drop "w-id").reportAll (ids ++ events)
  let labelled := (start el.stripped u inLoop).reportAll (ids ++ events ++ labels)
  have hnamed : (if s.bind.isRoot then s.bind else s.bind.handleId) = named := by
    rw [bind_of_find?_none (s := s) bind, show s.isRoot = false from rfl, if_neg Bool.false_ne_true]
    exact handleId_outside (outside closed)
  have hheard : named.handleEvents = heard := by
    have hevents : named.eventAttributes = s.eventAttributes :=
      select_drop (s := s) (q := fun n => (eventType? n).isSome) rfl
    rw [handleEvents_reports (outside closed), hevents]
    exact reportAll_append _ _ _
  have hextended : heard.handleExtend = heard :=
    handleExtend_of_find?_none ((Element.find?_remove_ne (by decide)).trans extend)
  have hlabelled : heard.handleFor = labelled := by
    have hlabel : heard.el.has "w-for" = el.has "w-for" := Element.has_congr (Element.find?_remove_ne (by decide))
    rw [handleFor_outside (outside closed), hlabel, drop_reportAll]
    exact reportAll_append _ _ _
  have hbody : labelled.el.has "w-body" = el.has "w-body" :=
    Element.has_congr ((Element.find?_remove_ne (by decide)).trans (Element.find?_remove_ne (by decide)))
  change s.applyRules = _
  rw [applyRules_eq, beforeBody, hnamed, hheard, hextended, hlabelled, handleBody_reports (outside closed), hbody,
    CompileUnit.problems_outside bind extend]
  exact reportAll_append _ _ _

/-! ## Forests outside the widgets -/

section Weaving

variable {inLoop : Bool} {u u₁ u₂ : CompileUnit} {nodes : List Node}

/-- A forest is woven node after node. -/
theorem weaveForest_cons {node node' : Node} {rest rest' : List Node} (first : weaveNode inLoop u node = (node', u₁))
    (after : weaveForest inLoop u₁ rest = (rest', u₂)) :
    weaveForest inLoop u (node :: rest) = (node' :: rest', u₂) := by
  rw [weaveForest, first]
  dsimp only
  rw [after]

/-- A loop is woven by weaving its body. -/
theorem weaveNode_loop {item : String} {source : Expr} {location : Template.Location} {body body' : List Node}
    (inside : weaveForest true u body = (body', u₁)) :
    weaveNode inLoop u (.loop item source body location) = (.loop item source body' location, u₁) := by
  rw [weaveNode, inside]

/-- An element outside the widgets loses two attributes and is reported; nothing is written around it or in it. -/
theorem weaveNode_outside {el : Element} {children children' : List Node} (closed : u.widgets = [])
    (bind : el.find? "w-bind" = none) (extend : el.find? "w-extend" = none)
    (inside : weaveForest inLoop (u.reportAll (u.reports ⟨el, false⟩)) children = (children', u₁)) :
    weaveNode inLoop u (.element el children) = (.element el.stripped children', u₁) := by
  rw [u.reports_eq] at inside
  let t : Turn := ⟨el, children, u, inLoop⟩
  have hsite : t.site = (Site.start el.stripped u inLoop).reportAll (u.problems ⟨el, false⟩) :=
    Site.applyRules_outside closed bind extend inLoop
  have hinside : weaveForest inLoop t.site.unit children = (children', u₁) := by
    rw [hsite]
    exact inside
  have hfinished : t.finished = Site.start el.stripped u₁ inLoop := by
    have hunit : t.inside = u₁ := congrArg Prod.snd hinside
    rw [Turn.finished, Site.finished, hunit, show (Site.start t.el t.unit t.inLoop).applyRules = _ from hsite]
    rfl
  rw [weaveNode_element, Turn.woven, hinside, hfinished]
  exact congrArg (fun nodes => (Node.element el.stripped nodes, u₁)) (List.append_nil children')

/-- Outside the widgets, weaving takes two attributes of each element and reports its problems, in document order. -/
theorem weaveForest_outside (closed : u.widgets = [])
    (rootless : ∀ el ∈ elementsAll nodes, el.find? "w-bind" = none ∧ el.find? "w-extend" = none) :
    weaveForest inLoop u nodes =
      (mapElementsAll Element.stripped nodes,
        u.reportAll ((elementsAll nodes).flatMap fun el => u.reports ⟨el, false⟩)) := by
  induction nodes using Template.forestInduction generalizing inLoop u with
  | nil => exact congrArg _ u.reportAll_nil.symm
  | element el children rest inside after =>
    rw [elementsAll, elements, List.cons_append, List.forall_mem_cons, List.forall_mem_append] at rootless
    obtain ⟨⟨hbind, hextend⟩, hchildren, hrest⟩ := rootless
    rw [elementsAll, elements, List.cons_append, List.flatMap_cons, List.flatMap_append,
      ← CompileUnit.reportAll_append, ← CompileUnit.reportAll_append]
    -- what is reported before does not count for what is reported later
    exact weaveForest_cons (weaveNode_outside closed hbind hextend (inside closed hchildren)) (after closed hrest)
  | loop item source body location rest inside after =>
    rw [elementsAll, elements, List.forall_mem_append] at rootless
    rw [elementsAll, elements, List.flatMap_append, ← CompileUnit.reportAll_append]
    exact weaveForest_cons (weaveNode_loop (inside closed rootless.1)) (after closed rootless.2)
  | _ =>
    rename_i after
    exact weaveForest_cons rfl (after closed rootless)

/-- Outside the widgets no widget is opened. -/
theorem outside_of_mem_turnsAll (closed : u.widgets = [])
    (rootless : ∀ el ∈ elementsAll nodes, el.find? "w-bind" = none)
    {t : Turn} (h : t ∈ turnsAll inLoop u nodes) : t.unit.widgets = [] ∧ t.bound = false := by
  have loose : ∀ t ∈ turnsAll inLoop u nodes, t.bound = false := by
    intro t ht
    have hel : t.el ∈ elementsAll nodes := map_el_turnsAll inLoop u nodes ▸ List.mem_map_of_mem ht
    rw [t.bound_eq, CompileUnit.opens, rootless t.el hel]
  refine ⟨of_mem_turnsAll (p := fun v => v.widgets = []) ?_ ?_ closed h, loose t h⟩
  · exact fun inLoop v node hv => (weaveForest_woven inLoop v [node]).stack.eq_nil.mpr hv
  · intro t ht hv
    rw [(t.sameStack_of_mem_stages t.site_mem_stages).eq_nil, t.widgets_entered_of_loose (loose t ht), hv]

end Weaving

/-- **Without a widget nothing happens to a template**, whatever other attributes its elements have. Two attributes are
taken from each element, its problems are reported, and that is all: every statement, every other attribute and every
other node stays, no number is taken, no variable is declared, and no element is bound. -/
theorem weave_outside {u : CompileUnit} (closed : u.widgets = []) (nodes : List Node)
    (rootless : ∀ el ∈ elementsAll nodes, el.has "w-bind" = false ∧ el.has "w-extend" = false) :
    weave u nodes = (mapElementsAll Element.stripped nodes,
        u.reportAll ((elementsAll nodes).flatMap fun el => u.reports ⟨el, false⟩)) ∧
      ∀ t ∈ turnsAll false u nodes, t.unit.widgets = [] ∧ t.bound = false := by
  have absent : ∀ el ∈ elementsAll nodes, el.find? "w-bind" = none ∧ el.find? "w-extend" = none := fun el hel =>
    ⟨Element.find?_eq_none.mpr (rootless el hel).1, Element.find?_eq_none.mpr (rootless el hel).2⟩
  rw [weave_eq closed]
  exact ⟨weaveForest_outside closed absent, fun t ht =>
    outside_of_mem_turnsAll closed (fun el hel => (absent el hel).1) ht⟩

/-- A custom element below a loop with everything but a root: its handler and the mark of its body stay. -/
theorem weave_outside_of_list :
    let item (attributes : List Template.Attribute) : Node := .element { tag := "app-x", custom := true, attributes } []
    let loop (node : Node) : List Node := [.loop "x" (.ident "xs") [node] .start]
    let given : List Template.Attribute :=
      [⟨"w-id", some (.raw "x.id")⟩, ⟨"w-onopen", some (.str "f")⟩, ⟨"w-for", some (.str "a")⟩, ⟨"w-config", none⟩,
        ⟨"w-body", none⟩]
    let left : List Template.Attribute := [⟨"w-onopen", some (.str "f")⟩, ⟨"w-config", none⟩, ⟨"w-body", none⟩]
    weave {} (loop (item given)) = (loop (item left), CompileUnit.reportAll {}
      [⟨"W-ERR-BIND-SCOPE", "w-id can only be used within the scope of w-bind", "", 1, 1⟩,
        ⟨"W-ERR-BIND-SCOPE", "w-onopen can only be used within the scope of w-bind", "", 1, 1⟩,
        ⟨"W-ERR-BIND-SCOPE", "w-for can only be used within the scope of w-bind", "", 1, 1⟩,
        ⟨"W-ERR-BODY-SCOPE", "w-body can only be used within the scope of w-bind", "", 1, 1⟩]) := by
  intro item loop given left
  have rootless : ∀ el ∈ elementsAll (loop (item given)), el.has "w-bind" = false ∧ el.has "w-extend" = false := by
    decide
  exact (weave_outside rfl (loop (item given)) rootless).1.trans rfl

end WidgetTemplates.Compile
