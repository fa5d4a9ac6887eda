import Mathlib.Data.List.Flatten
import WidgetTemplates.Proofs.Compile.Outside

/-!
# Weaving a woven template

Weaving what has been woven changes nothing. Weaving spends every element that lists no attribute name twice, and where
all elements are spent no widget is ever open, so weaving takes nothing from them and reports their problems
(`weaveForest_spent`): the first event attribute that is left, and the mark of a body slot (`scopeProblems`). What is
reported about the woven element has been reported about the element already (`Turn.reports_woven`). The main result
puts the two together (`weave_woven`). -/

namespace WidgetTemplates.Compile

open Script (Expr Stmt)
open Template (Attribute Element Node Problem Diagnostic mapElementsAll)

/-- What is wrong with an element that lies outside the widgets, once its other widget attributes are taken. -/
def scopeProblems (el : Element) : List Problem :=
  ((eventAttributes el.attributes).head?.map fun a => Problem.outsideWidget a.name).toList ++
    if el.has "w-body" then [.bodyOutsideWidget] else []

/-- The reports of these problems. -/
def scopeReports (file : String) (el : Element) : List Diagnostic :=
  (scopeProblems el).map (.of file el.location)

/-- The attributes and the location of an element decide what is reported about it. -/
theorem scopeReports_congr {file : String} {el el' : Element}
    (events : eventAttributes el'.attributes = eventAttributes el.attributes)
    (body : el'.find? "w-body" = el.find? "w-body") (location : el'.location = el.location) :
    scopeReports file el' = scopeReports file el := by
  rw [scopeReports, scopeReports, scopeProblems, scopeProblems, events, Element.has_congr body, location]

/-! ## Forests of spent elements -/

section Spent

variable {inLoop : Bool} {u : CompileUnit} {nodes : List Node}

/-- A spent element has nothing left to take. -/
theorem Spent.stripped {el : Element} (spent : Spent el) : el.stripped = el := by
  rw [Element.stripped, Element.remove_of_find?_none spent.id, Element.remove_of_find?_none spent.label]

/-- What is wrong with a spent element outside the widgets. -/
theorem Spent.reports {el : Element} (spent : Spent el) (u : CompileUnit) :
    u.reports ⟨el, false⟩ = scopeReports u.settings.filePath el := by
  have hid : el.has "w-id" = false := Element.find?_eq_none.mp spent.id
  have hlabel : el.has "w-for" = false := Element.find?_eq_none.mp spent.label
  rw [CompileUnit.reports_eq, CompileUnit.problems_outside spent.bind spent.extend, hid, hlabel, Problem.onlyIf_false,
    Problem.onlyIf_false, List.nil_append, List.append_nil]
  rfl

/-- **Weaving a forest of spent elements outside the widgets** leaves it as it is and reports what is wrong with its
elements, in document order. -/
theorem weaveForest_spent (spent : ∀ el ∈ elementsAll nodes, Spent el) (closed : u.widgets = []) :
    weaveForest inLoop u nodes =
      (nodes, u.reportAll ((elementsAll nodes).flatMap (scopeReports u.settings.filePath))) := by
  rw [weaveForest_outside closed fun el hel => ⟨(spent el hel).bind, (spent el hel).extend⟩,
    Template.mapElementsAll_eq_self fun el hel => (spent el hel).stripped,
    List.flatMap_congr fun el hel => (spent el hel).reports u]

/-- While a forest of spent elements is woven, no widget is opened. -/
theorem closed_of_mem_turnsAll (spent : ∀ el ∈ elementsAll nodes, Spent el)
    (closed : u.widgets = []) {t : Turn} (h : t ∈ turnsAll inLoop u nodes) : t.unit.widgets = [] :=
  (outside_of_mem_turnsAll closed (fun el hel => (spent el hel).bind) h).1

end Spent

/-- A spent element opens no widget, whichever rule has its turn. -/
theorem Turn.closed_of_mem_stages {t : Turn} (spent : Spent t.el) (closed : t.unit.widgets = []) :
    t.bound = false ∧ ∀ s ∈ t.stages, s.unit.widgets = [] := by
  have loose : t.bound = false := by rw [t.bound_eq, CompileUnit.opens, spent.bind]
  refine ⟨loose, fun s hs => ?_⟩
  rw [(t.sameStack_of_mem_stages hs).eq_nil, t.widgets_entered_of_loose loose, closed]

/-! ## What has been reported -/

/-- What is wrong with the woven element, should it lie outside the widgets, has been wrong with the element. -/
theorem Turn.reports_woven (t : Turn) (distinct : t.el.names.Nodup) :
    (scopeReports t.unit.settings.filePath t.woven).Sublist (t.unit.reports t.placed) := by
  have hentered := t.inWidget_eq_of_mem_stages t.entered_mem_stages
  rcases hinside : t.entered.inWidget with _ | _
  · obtain ⟨hevents, hbody⟩ := t.left_woven hinside
    obtain ⟨-, hlocation⟩ := t.attributes_woven_of_loose (t.loose_of_outside hinside)
    have houtside : t.placed.inside t.unit.opens = false := (t.inside_placed rfl).trans (hentered.symm.trans hinside)
    rw [scopeReports_congr hevents hbody hlocation, CompileUnit.reports_eq]
    apply List.Sublist.map
    -- of the six problems these are the third and the last one
    rw [scopeProblems, CompileUnit.problems, houtside, Bool.not_false, Bool.and_true, Bool.and_true,
      if_neg Bool.false_ne_true]
    apply List.Sublist.append
    · apply List.sublist_append_of_sublist_left
      apply List.sublist_append_of_sublist_left
      apply List.sublist_append_right
    · exact List.Sublist.refl _
  · obtain ⟨hevents, hbody⟩ := t.heard_woven distinct hinside
    rw [scopeReports, scopeProblems, hevents, Element.find?_eq_none.mp hbody]
    exact List.nil_sublist _

/-- What is wrong with the elements of a woven forest, should they lie outside the widgets, has been reported while
the forest was woven, in the same order. -/
theorem reports_weaveForest (inLoop : Bool) (u : CompileUnit) {nodes : List Node}
    (distinct : ∀ el ∈ elementsAll nodes, el.names.Nodup) :
    ∃ reports, (weaveForest inLoop u nodes).2.diagnostics = u.diagnostics ++ reports ∧
      ((elementsAll (weaveForest inLoop u nodes).1).flatMap (scopeReports u.settings.filePath)).Sublist reports := by
  refine ⟨_, diagnostics_weaveForest inLoop u nodes, ?_⟩
  rw [elementsAll_weaveForest, List.flatMap_map]
  apply List.Sublist.flatMap_right
  intro t ht
  have hel : t.el ∈ elementsAll nodes := map_el_turnsAll inLoop u nodes ▸ List.mem_map_of_mem ht
  rw [← (context_of_mem_turnsAll ht).1]
  exact t.reports_woven (distinct t.el hel)

/-- **Weaving a woven template changes nothing.** With the same settings and files, the template that comes out is the
one that goes in, no number is taken, nothing is declared, no widget is open at any time, and no mistake is noted. All
that happens is that problems of scope are reported again which have been reported the first time. -/
theorem weave_woven (settings : Template.Settings) (files : Path.Files) (nodes : List Node)
    (distinct : ∀ el ∈ elementsAll nodes, el.names.Nodup) :
    let fresh : CompileUnit := { settings, files }
    let once := weave fresh nodes
    let twice := weave fresh once.1
    twice.1 = once.1 ∧
      (∃ again, twice.2 = { fresh with diagnostics := again } ∧ again.Sublist once.2.diagnostics ∧
        ∀ d ∈ again, d.code = "W-ERR-BIND-SCOPE" ∨ d.code = "W-ERR-BODY-SCOPE") ∧
      ∀ t ∈ turnsAll false fresh once.1, t.bound = false ∧ ∀ s ∈ t.stages, s.unit.widgets = [] := by
  intro fresh once twice
  have honce : once = weaveForest false fresh nodes := weave_eq rfl nodes
  have spent : ∀ el ∈ elementsAll once.1, Spent el := by
    rw [honce, elementsAll_weaveForest, List.forall_mem_map]
    intro t ht
    refine t.spent_woven (distinct t.el ?_)
    rw [← map_el_turnsAll false fresh]
    exact List.mem_map_of_mem ht
  have htwice : twice = (once.1, fresh.reportAll ((elementsAll once.1).flatMap (scopeReports settings.filePath))) :=
    (weave_eq rfl once.1).trans (weaveForest_spent spent rfl)
  refine ⟨by rw [htwice],
    ⟨(elementsAll once.1).flatMap (scopeReports settings.filePath), by rw [htwice]; rfl, ?_, ?_⟩, ?_⟩
  · obtain ⟨reports, hreports, hagain⟩ := reports_weaveForest false fresh distinct
    rw [honce, hreports]
    exact hagain
  · intro d hd
    obtain ⟨el, -, hd⟩ := List.mem_flatMap.mp hd
    obtain ⟨p, hp, rfl⟩ := List.mem_map.mp hd
    -- an event attribute is left, or the mark of a body slot
    rcases List.mem_append.mp hp with hp | hp
    · obtain ⟨a, -, rfl⟩ := Option.map_eq_some_iff.mp (Option.mem_toList.mp hp)
      exact .inl rfl
    · split at hp
      · obtain rfl := List.mem_singleton.mp hp
        exact .inr rfl
      · cases hp
  · intro t ht
    refine Turn.closed_of_mem_stages (spent t.el ?_) (closed_of_mem_turnsAll spent rfl ht)
    rw [← map_el_turnsAll false fresh]
    exact List.mem_map_of_mem ht

/-- A listener outside every widget, and a list of slots in a widget. The second time the template stays the same, no
number is taken and nothing is declared. The listener is reported both times, since its attribute stays. -/
theorem weave_woven_of_stray_listener :
    let nodes : List Node :=
      [.element { tag := "p", attributes := [⟨"w-onclick", some (.str "go")⟩] } [],
        .element { tag := "ul", attributes := [⟨"w-bind", some (.str "./w")⟩] }
          [.loop "x" (.ident "xs")
            [.element
              { tag := "li", attributes := [⟨"w-onclick", some (.str "pick")⟩, ⟨"w-body", some (.raw "x")⟩] } []]
            .start]]
    let once := weave {} nodes
    let twice := weave {} once.1
    once.2.nextId = 1 ∧ once.2.diagnostics.length = 1 ∧ twice.1 = once.1 ∧ twice.2.nextId = 0 ∧
      twice.2.declarations = [] ∧ twice.2.diagnostics = once.2.diagnostics := by
  intro nodes once twice
  have distinct : ∀ el ∈ elementsAll nodes, el.names.Nodup := by
    have h : elementsAll nodes = [_, _, _] := rfl
    rw [h]
    simp only [List.forall_mem_cons]
    refine ⟨by decide, by decide, by decide, nofun⟩
  obtain ⟨hnodes, ⟨again, hunit, hagain, -⟩, -⟩ := weave_woven {} {} nodes distinct
  have hlength : once.2.diagnostics.length = 1 := rfl
  have hreported : twice.2.diagnostics.length = 1 := rfl
  change twice.2 = _ at hunit
  rw [hunit] at hreported ⊢
  exact ⟨rfl, hlength, hnodes, rfl, rfl, hagain.eq_of_length (hreported.trans hlength.symm)⟩

end WidgetTemplates.Compile
