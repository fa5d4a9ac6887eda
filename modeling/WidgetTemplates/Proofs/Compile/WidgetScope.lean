import WidgetTemplates.Proofs.Compile.Hushed
import WidgetTemplates.Proofs.Compile.PrintedScope
import WidgetTemplates.Proofs.Compile.Roots

/-!
# The scope of `widget` in a woven template

Weaving brings in mentions of `widget`, and the function around a widget binds that name. In a widget nothing
can go wrong. Outside, an element that opens no widget mentions it nowhere, and a root mentions it in its
attributes, which are printed inside its own wrapper. Only the statement that hands over its events is printed
before the wrapper. So weaving keeps to the scope of `widget` exactly if no custom element that opens an
outermost widget has a handler of an event (`widget_in_scope_iff`).
-/

namespace WidgetTemplates

namespace Template.Occurrence

variable {skip : String → Bool} {above : List Node} {node : Node}

/-- What stands in an element is reached if its tag is not skipped and the element is reached. -/
theorem reached_element {el : Element} {children : List Node} :
    Reached skip ⟨node, .element el children :: above⟩ ↔
      skip el.tag = false ∧ Reached skip ⟨node, above⟩ := by
  simp only [Reached, List.mem_cons, Node.element.injEq]
  constructor
  · intro h
    exact ⟨h el children (.inl ⟨rfl, rfl⟩), fun el' children' hmem => h el' children' (.inr hmem)⟩
  · rintro ⟨hown, h⟩ el' children' (⟨rfl, rfl⟩ | hmem)
    · exact hown
    · exact h el' children' hmem

/-- What stands in a loop is reached if the loop is. -/
theorem reached_loop {item : String} {source : Script.Expr} {body : List Node} {location : Location} :
    Reached skip ⟨node, .loop item source body location :: above⟩ ↔ Reached skip ⟨node, above⟩ := by
  simp [Reached]

end Template.Occurrence

namespace Compile

open Script (Expr Stmt)
open Template (Attribute Binding Element Node Occurrence Throughout occurrencesAll)

/-! ## Roots that hand over events -/

/-- An attribute that is no event is no handler. -/
theorem hasHandler_remove {el : Element} {name : String} (noEvent : Site.eventType? name = none) :
    HasHandler (el.remove name) ↔ HasHandler el := by
  constructor
  · rintro ⟨a, ha, hh⟩
    exact ⟨a, Element.mem_of_mem_remove ha, hh⟩
  · rintro ⟨a, ha, hh⟩
    refine ⟨a, (List.mem_eraseP_of_neg ?_).mpr ha, hh⟩
    intro heq
    rw [handler?, eq_of_beq heq, noEvent] at hh
    exact absurd hh Bool.false_ne_true

namespace Site

variable {s : Site}

/-- The rule for `w-extend` hands over neither id nor events. -/
theorem handedOver_handleExtend (s : Site) :
    s.handleExtend.handedOver.id = s.handedOver.id ∧
      s.handleExtend.handedOver.events = s.handedOver.events := by
  rcases s.handleExtend_cases with h | ⟨p, h⟩ | ⟨a, widgetType, u, -, -, h⟩ <;> rw [h] <;> exact ⟨rfl, rfl⟩

theorem handover_handleFor (s : Site) : s.handleFor.handover = s.handover := by
  rcases s.handleFor_cases with h | ⟨p, h⟩ | ⟨a, target, -, -, -, h⟩ <;> rw [h] <;> rfl

theorem handover_ensureVariable (s : Site) : s.ensureVariable.handover = s.handover := by
  rcases s.ensureVariable_cases with h | ⟨a, stmt, -, -, -, h⟩ <;> rw [h]

/-- Settling the id hands nothing over. -/
theorem handover_assign (s : Site) (repeated : Bool) : (s.assign repeated).handover = s.handover := by
  refine assign_induction (motive := fun t => t.handover = s.handover) rfl (fun _ _ _ => rfl) (fun _ _ => rfl) ?_ ?_
  · intro t ht
    rwa [handover_ensureVariable]
  · exact fun _ ht => ht

theorem handover_handleBody (s : Site) : s.handleBody.handover = s.handover := by
  apply handleBody_induction (motive := fun t => t.handover = s.handover)
  · exact fun _ => rfl
  · exact fun _ => rfl
  · exact fun _ => rfl
  · exact fun t repeated ht => (handover_assign t repeated).trans ht
  · exact fun _ _ ht => ht
  · exact fun t ht => (handover_ensureVariable t).trans ht
  · exact fun _ _ _ ht => ht

/-- An element that opens a widget does so when its own id has been taken. -/
theorem bind_of_opens (opens : s.unit.opens s.el = true) :
    ∃ widgetType u, u.widgets = s.unit.widgets ∧
      s.bind = ({ s.drop "w-bind" with unit := u }.bindId).enter widgetType := by
  rcases s.bind_cases with ⟨hf, -⟩ | ⟨a, hf, ⟨ht, -⟩ | ⟨widgetType, u, ht, h⟩⟩
  · rw [CompileUnit.opens, hf] at opens
    exact absurd opens (by simp)
  · rw [opens_of_find? hf, ht] at opens
    exact absurd opens (by simp)
  · refine ⟨widgetType, u, ?_, h⟩
    rcases widgetTypeOf?_cases ht with ⟨-, rfl⟩ | ⟨path, hpath⟩
    · rfl
    · obtain ⟨rfl, rfl⟩ := Prod.mk.inj hpath
      exact widgets_widgetType path s.unit

/-- An element that no widget encloses opens its own with nothing handed over and with its events as they are. -/
theorem bind_outside (outside : s.inWidget = false) (opens : s.unit.opens s.el = true) :
    s.bind.handover = s.handover ∧ s.bind.inWidget = true ∧ (HasHandler s.bind.el ↔ HasHandler s.el) := by
  obtain ⟨widgetType, u, hwidgets, hbind⟩ := bind_of_opens opens
  have hclosed : ({ s.drop "w-bind" with unit := u } : Site).inWidget = false :=
    (inWidget_congr hwidgets).trans outside
  have hel : ({ s.drop "w-bind" with unit := u } : Site).bindId.el =
      (s.el.remove "w-bind").remove "w-id" := by
    rcases bindId_cases _ with hs | ⟨-, hs⟩ | ⟨-, e, hs⟩ <;> rw [hs] <;> rfl
  rw [hbind]
  refine ⟨(bindId_outside hclosed).1, rfl, ?_⟩
  rw [enter, hel, hasHandler_remove (by decide), hasHandler_remove (by decide)]

/-- **Which elements outside a widget refer to one.** They are the custom elements that open a widget and have a
handler of an event. -/
theorem refers_applyRules {inText : String → Prop} {el : Element} {u : CompileUnit} {inLoop : Bool}
    (silent : HushedAttributes inText el) (names : NamesApart u) (closed : u.widgets = []) :
    (start el u inLoop).applyRules.RefersToWidget ↔
      u.opens el = true ∧ el.custom = true ∧ HasHandler el := by
  have hroot : (start el u inLoop).applyRules.isRoot = u.opens el := isRoot_applyRules el u inLoop
  have hstart : Hushed inText el (start el u inLoop) := hushed_start silent names closed
  rcases hopens : u.opens el with _ | _
  · have hushed := (start_edits el u inLoop).hushed silent hstart
    exact iff_of_false (hushed.unreferred (hroot.trans hopens)) (by simp)
  · obtain ⟨hhandover, hinside, hhandlers⟩ := bind_outside (hstart.outside rfl) hopens
    have hbound : (start el u inLoop).bind.isRoot = true := (isRoot_bind rfl).trans hopens
    have bound : Edits el false (start el u inLoop) (start el u inLoop).bind :=
      bind_edits hstart.honest rfl rfl
    have hcustom : (start el u inLoop).bind.el.custom = el.custom := bound.custom
    have hquiet : ¬ (start el u inLoop).bind.RefersToWidget := by
      rw [RefersToWidget, handedOver, hhandover]
      exact hstart.unreferred rfl
    -- the rules after the one for events change neither the id nor the events that are handed over
    have hlast : (start el u inLoop).applyRules.RefersToWidget ↔
        (start el u inLoop).bind.handleEvents.RefersToWidget := by
      obtain ⟨hid, hevents⟩ := handedOver_handleExtend (start el u inLoop).bind.handleEvents
      have hkeep : (start el u inLoop).applyRules.handover =
          (start el u inLoop).bind.handleEvents.handleExtend.handover := by
        rw [applyRules_eq, handover_handleBody, beforeBody, hbound, if_pos rfl, handover_handleFor]
      rw [RefersToWidget, RefersToWidget, ← hid, ← hevents, handedOver, hkeep]
      rfl
    rw [hlast, handleEvents_refers hinside hquiet, hcustom, hhandlers]
    simp [start]

end Site

/-! ## What a finished element mentions -/

section Finished

variable {inText : String → Prop}

/-- The depositing call mentions `widget` exactly if an id or an event is handed over. -/
theorem mentions_depositStmt {h : Handover} (hushed : HushedHandover inText h) :
    (Site.depositStmt h).value.Mentions inText "widget" ↔ h.id.isSome = true ∨ h.events ≠ [] := by
  rw [Site.depositStmt, Stmt.value, Expr.mentions_call, Expr.mentions_ident, Handover.args]
  constructor
  · intro mentions
    -- without an id and events the arguments are constants and the parts of the base widget
    by_contra quiet
    obtain ⟨hid, hevents⟩ : h.id = none ∧ h.events = [] := by simpa using quiet
    rcases mentions with heq | ⟨e, he, mentions⟩
    · exact absurd heq (by decide)
    · rw [hid, hevents] at he
      rcases List.mem_append.mp he with he | he
      · have hconst : e = .out ∨ e = .null := by
          rcases hx : h.extension with _ | x <;> simpa [hx] using he
        rcases hconst with rfl | rfl
        · exact absurd (Expr.mentions_ident.mp mentions) (by decide)
        · exact Expr.mentions_null mentions
      · rcases hx : h.extension with _ | x
        · rw [hx] at he
          exact nomatch he
        · rw [hx] at he
          obtain ⟨htype, hconfig, hstate⟩ := hushed.extension x hx
          have hoptional : ∀ o : Option Expr, (∀ e ∈ o, ¬ e.Mentions inText "widget") →
              ¬ (o.getD .null).Mentions inText "widget" := by
            rintro (_ | e) ho
            · exact Expr.mentions_null
            · exact ho e rfl
          have hsilent : ∀ e ∈ [x.widgetType, x.config.getD .null, x.state.getD .null],
              ¬ e.Mentions inText "widget" := by
            simp only [List.forall_mem_cons]
            exact ⟨htype, hoptional _ hconfig, hoptional _ hstate, nofun⟩
          exact hsilent e he mentions
  · intro refers
    refine .inr ⟨Expr.widget.member "id", ?_, ?_⟩
    · have hscope : (h.id.isSome || !h.events.isEmpty) = true := by simpa using refers
      simp [hscope]
    · rw [Expr.mentions_member, Expr.widget, Expr.mentions_ident]

namespace Site

/-- The statements around an element, without those of the template, mention `widget` exactly if it refers to the
widget around it. -/
theorem silent_surround {s : Site} (hushed : HushedHandover inText s.handedOver)
    (before : s.el.before = []) (after : s.el.after = []) :
    (∀ stmt ∈ s.surround.el.before ++ s.surround.el.after, ¬ stmt.value.Mentions inText "widget") ↔
      ¬ s.RefersToWidget := by
  rcases s.surround_cases with ⟨hs, hempty⟩ | ⟨h, hhandover, -, hs⟩
  · rw [hs, before, after]
    refine iff_of_true nofun ?_
    rcases hh : s.handover with _ | h
    · simp [RefersToWidget, handedOver, hh]
    · have := hempty h hh
      simp only [Handover.isEmpty, Bool.and_eq_true, Option.isNone_iff_eq_none,
        List.isEmpty_iff] at this
      simp [RefersToWidget, handedOver, hh, this]
  · have hgiven : s.handedOver = h := by rw [handedOver, hhandover]; rfl
    have hclear : ¬ (clearStmt.value).Mentions inText "widget" := by
      simp [clearStmt, Stmt.value, Expr.out]
    rw [hgiven] at hushed
    rw [RefersToWidget, hgiven, ← mentions_depositStmt hushed, hs]
    simp [Element.insertBefore, Element.insertAfter, before, after, hclear]

variable {el : Element} {u u₁ : CompileUnit} {inLoop : Bool}

variable (silent : HushedAttributes inText el) (names : NamesApart u) (closed : u.widgets = [])
  (fresh : el.before = [] ∧ el.after = [] ∧ el.widget = none)
include silent names closed fresh

/-- The statements around the finished element of an outermost element mention `widget` exactly if it is a custom
one that opens a widget and has a handler. -/
theorem silent_statements {s : Site} (hel : s.el = (start el u inLoop).applyRules.el)
    (hhandover : s.handover = (start el u inLoop).applyRules.handover) :
    (∀ stmt ∈ s.surround.el.before ++ s.surround.el.after, ¬ stmt.value.Mentions inText "widget") ↔
      ¬ (u.opens el = true ∧ el.custom = true ∧ HasHandler el) := by
  have edits := start_edits el u inLoop
  have hushed := edits.hushed silent (hushed_start silent names closed)
  have hbefore : (start el u inLoop).applyRules.el.before = [] := hushed.before.trans fresh.1
  have hafter : (start el u inLoop).applyRules.el.after = [] := edits.after.trans fresh.2.1
  have hgiven : s.handedOver = (start el u inLoop).applyRules.handedOver := by
    rw [handedOver, hhandover, handedOver]
  rw [← hel] at hbefore hafter
  have hquiet : HushedHandover inText s.handedOver := by
    rw [hgiven]
    exact hushed.handover
  rw [← refers_applyRules silent names closed, RefersToWidget, ← hgiven]
  exact silent_surround hquiet hbefore hafter

/-- Outside its wrapper the finished element of an outermost element mentions `widget` exactly if the statements
around it do. -/
theorem silent_outerExprs (children : List Node)
    (inside : SameStack (start el u inLoop).applyRules.unit.widgets u₁.widgets) :
    (∀ e ∈ (Node.element (finished el u inLoop u₁).el children).outerExprs,
        ¬ e.Mentions inText "widget") ↔
      ¬ (u.opens el = true ∧ el.custom = true ∧ HasHandler el) := by
  have hwidget : (start el u inLoop).applyRules.el.widget = none :=
    (start_edits el u inLoop).widget.trans fresh.2.2
  rcases Bool.eq_false_or_eq_true (u.opens el) with ho | ho
  · obtain ⟨s, w, hfinished, hel, hhandover, t, hedits, hnames⟩ := finished_of_opens ho inside
    obtain ⟨hbefore, hafter, -, hbinding⟩ := finishRoot_frame s.surround.el w
    have htype : ¬ w.widgetType.Mentions inText "widget" := silent.names (names.of_extends hedits.extends) hnames
    rw [← silent_statements silent names closed fresh hel hhandover, hfinished, Node.outerExprs,
      hbefore, hafter, hbinding, List.forall_mem_append, List.forall_mem_map]
    simp [htype]
  · obtain ⟨s, hfinished, hel, hhandover, -⟩ := @finished_of_not_opens el u u₁ inLoop ho
    have hnone : s.surround.el.widget = none := by rw [s.surround_el.2, hel, hwidget]
    rw [← silent_statements silent names closed fresh hel hhandover, hfinished, Node.outerExprs,
      hnone, List.append_nil, List.forall_mem_map]

/-- The finished element of an outermost element that opens no widget is silent. -/
theorem silent_finished (opens : u.opens el = false) :
    (∀ children, ∀ e ∈ (Node.element (finished el u inLoop u₁).el children).innerExprs,
        ¬ e.Mentions inText "widget") ∧
      (finished el u inLoop u₁).el.widget = none ∧ (finished el u inLoop u₁).appended = [] := by
  have edits := start_edits el u inLoop
  have hushed := edits.hushed silent (hushed_start silent names closed)
  have houter : (start el u inLoop).applyRules.isRoot = false := (isRoot_applyRules el u inLoop).trans opens
  have hwidget : (start el u inLoop).applyRules.el.widget = none := edits.widget.trans fresh.2.2
  obtain ⟨s, hfinished, hel, -, happended⟩ := @finished_of_not_opens el u u₁ inLoop opens
  obtain ⟨hattributes, hkept⟩ := s.surround_el
  rw [hfinished]
  refine ⟨?_, ?_, ?_⟩
  · intro children e he
    rw [Node.innerExprs, hattributes, hel] at he
    obtain ⟨a, ha, hv⟩ := List.mem_filterMap.mp he
    exact hushed.attributes houter a ha e hv
  · rw [hkept, hel, hwidget]
  · rw [s.surround_frame.2.2, happended, hushed.appended houter]

end Site

end Finished

/-! ## Forests -/

/-- An element is exposed if it is a custom element that opens an outermost widget and has a handler of an event:
the widget around it, which is to receive the event, does not exist. -/
def Exposed (opens : Element → Bool) (o : Occurrence) : Prop :=
  (∃ el children, o.node = .element el children ∧ opens el = true ∧ el.custom = true ∧ HasHandler el) ∧
    ∀ el children, .element el children ∈ o.above → opens el = false

section Forests

variable {inText : String → Prop} {skip : String → Bool} {opens : Element → Bool}
  {above nodes : List Node}

/-- What stands below a wrapper keeps to the scope. -/
theorem keepsScope_below {p : Occurrence → Prop} (bound : above.any Node.isBound = true) :
    Throughout (fun o => p o → o.KeepsScope inText) above nodes := by
  intro o ho _
  obtain ⟨node, hmem, hnode⟩ := List.any_eq_true.mp bound
  have hin : o.inBound = true := List.any_eq_true.mpr ⟨node, Template.subset_above ho hmem, hnode⟩
  exact ⟨fun _ _ _ => hin, fun _ _ _ => .inl hin⟩

/-- What stands below an element that opens a widget is not exposed. -/
theorem not_exposed_below {p : Occurrence → Prop} {el : Element} {children : List Node}
    (opened : opens el = true) :
    Throughout (fun o => p o → ¬ Exposed opens o) (.element el children :: above) nodes := by
  rintro o ho - ⟨-, outermost⟩
  have hmem := Template.subset_above ho List.mem_cons_self
  exact absurd (opened.symm.trans (outermost el children hmem)) (by simp)

/-- A node whose expressions do not mention `widget` keeps to its scope. -/
theorem keepsScope_of_silent {o : Occurrence} (silent : ∀ e ∈ o.node.exprs, ¬ e.Mentions inText "widget") :
    o.KeepsScope inText := by
  constructor
  · exact fun e he mentions => absurd mentions (silent e (List.mem_append_left _ he))
  · exact fun e he mentions => absurd mentions (silent e (List.mem_append_right _ he))

/-- The attributes of an element that mentions `widget` nowhere do not mention it. -/
theorem HushedAttributes.of_silent {el : Element} {children : List Node}
    (silent : ∀ e ∈ (Node.element el children).exprs, ¬ e.Mentions inText "widget") :
    HushedAttributes inText el :=
  fun a ha e he => silent e (List.mem_append_right _ (List.mem_filterMap.mpr ⟨a, ha, he⟩))

/-- The finished element of an outermost element keeps to the scope unless it is exposed. -/
theorem keepsScope_finished {el : Element} {u u₁ : CompileUnit} {inLoop : Bool} {children children' : List Node}
    {above' : List Node} (names : NamesApart u) (closed : u.widgets = [])
    (hopens : ∀ el, u.opens el = opens el) (unbound : above'.any Node.isBound = false)
    (outermost : ∀ el children, .element el children ∈ above → opens el = false)
    (fresh : (Node.element el children).isFresh)
    (silent : ∀ e ∈ (Node.element el children).exprs, ¬ e.Mentions inText "widget")
    (inside : SameStack (Site.start el u inLoop).applyRules.unit.widgets u₁.widgets) :
    Occurrence.KeepsScope inText ⟨.element (Site.finished el u inLoop u₁).el children', above'⟩ ↔
      ¬ Exposed opens ⟨.element el children, above⟩ := by
  have hsilent : HushedAttributes inText el := .of_silent silent
  have hexposed : Exposed opens ⟨.element el children, above⟩ ↔
      u.opens el = true ∧ el.custom = true ∧ HasHandler el := by
    rw [Exposed, hopens]
    constructor
    · rintro ⟨⟨el', children', heq, h⟩, -⟩
      obtain ⟨rfl, -⟩ := Node.element.inj heq
      exact h
    · exact fun h => ⟨⟨el, children, rfl, h⟩, outermost⟩
  have houter := Site.silent_outerExprs hsilent names closed fresh children' inside
  rw [hexposed, ← houter, Occurrence.KeepsScope, Occurrence.inBound, unbound]
  -- attributes mention `widget` only if the element has a wrapper of its own
  have hinner : ∀ e ∈ (Node.element (Site.finished el u inLoop u₁).el children').innerExprs,
      e.Mentions inText "widget" →
        (Node.element (Site.finished el u inLoop u₁).el children').isBound = true := by
    intro e he mentions
    rcases ho : u.opens el with _ | _
    · exact absurd mentions ((Site.silent_finished hsilent names closed fresh ho).1 children' e he)
    · obtain ⟨s, w, hfinished, -⟩ := Site.finished_of_opens ho inside
      rw [Node.isBound, hfinished, (Site.finishRoot_frame _ w).2.2.2]
      rfl
  constructor
  · exact fun h e he mentions => absurd (h.1 e he mentions) (by simp)
  · exact fun h => ⟨fun e he mentions => absurd mentions (h e he), fun e he m => .inr (hinner e he m)⟩

/-- **Weaving keeps to the scope of `widget` except at exposed elements.** -/
theorem Woven.keepsScope_iff {inLoop : Bool} {u u' : CompileUnit} {nodes' above' : List Node}
    (h : Woven inLoop u nodes nodes' u') (names : NamesApart u) (closed : u.widgets = [])
    (hopens : ∀ el, u.opens el = opens el) (unbound : above'.any Node.isBound = false)
    (outermost : ∀ el children, .element el children ∈ above → opens el = false)
    (reached : ∀ node, Occurrence.Reached skip ⟨node, above'⟩ ↔ Occurrence.Reached skip ⟨node, above⟩)
    (fresh : Throughout (fun o => o.node.isFresh) above nodes)
    (silent : Throughout (fun o => ∀ e ∈ o.node.exprs, ¬ e.Mentions inText "widget") above nodes) :
    Throughout (fun o => o.Reached skip → o.KeepsScope inText) above' nodes' ↔
      Throughout (fun o => o.Reached skip → ¬ Exposed opens o) above nodes := by
  induction h generalizing above above' with
  | nil => simp
  | @element inLoop u u₁ u₂ el children children' rest rest' inside after ihInside ihAfter =>
    rw [Template.throughout_element] at fresh silent
    have hstack := inside.stack
    have hnames : NamesApart (Site.start el u inLoop).applyRules.unit :=
      names.of_extends (Site.start_edits el u inLoop).extends
    -- the finished element, with the slots of its body among its children
    let s := Site.finished el u inLoop u₁
    let slots : List Node := s.appended.map .code
    have hself : Occurrence.KeepsScope inText ⟨.element s.el (children' ++ slots), above'⟩ ↔
        ¬ Exposed opens ⟨.element el children, above⟩ :=
      keepsScope_finished names closed hopens unbound outermost fresh.1 silent.1 hstack
    have hinside : Throughout (fun o => o.Reached skip → o.KeepsScope inText)
          (.element s.el (children' ++ slots) :: above') (children' ++ slots) ↔
        Throughout (fun o => o.Reached skip → ¬ Exposed opens o) (.element el children :: above) children := by
      rcases ho : u.opens el with _ | _
      · -- the element is silent and gets no slots, and below it still no widget is open
        obtain ⟨-, hwidget, happended⟩ :=
          Site.silent_finished (.of_silent silent.1) names closed fresh.1 ho
        have hclosed : (Site.start el u inLoop).applyRules.unit.widgets = [] :=
          (Site.stack_applyRules ho).eq_nil.mpr closed
        have hslots : slots = [] := congrArg (List.map _) happended
        rw [hslots, List.append_nil]
        refine ihInside hnames hclosed ?_ ?_ ?_ ?_ fresh.2.1 silent.2.1
        · exact fun el' => (Site.opens_applyRules el u inLoop el').trans (hopens el')
        · rw [List.any_cons, Node.isBound, hwidget, unbound]
          rfl
        · intro el' children' hmem
          rcases List.mem_cons.mp hmem with heq | hmem
          · obtain ⟨rfl, -⟩ := Node.element.inj heq
            exact (hopens _).symm.trans ho
          · exact outermost el' children' hmem
        · intro node
          rw [Occurrence.reached_element, Occurrence.reached_element, Site.tag_finished hstack, reached]
      · -- below the root of a widget everything is in scope, and nothing is exposed
        obtain ⟨s, w, hfinished, -⟩ := Site.finished_of_opens ho hstack
        refine iff_of_true (keepsScope_below ?_) (not_exposed_below ((hopens el).symm.trans ho))
        rw [List.any_cons, Node.isBound, hfinished, (Site.finishRoot_frame _ w).2.2.2]
        rfl
    have hafter : Throughout (fun o => o.Reached skip → o.KeepsScope inText) above' rest' ↔
        Throughout (fun o => o.Reached skip → ¬ Exposed opens o) above rest := by
      obtain ⟨hsettings, hfiles⟩ := Site.context_finished inside.context
      refine ihAfter ((hnames.of_extends inside.extends).of_extends (Site.extends_finished ..)) ?_ ?_
        unbound outermost reached
        fresh.2.2 silent.2.2
      · exact (Site.finished_stack hstack).eq_nil.mpr closed
      · exact fun el' => (opens_congr hsettings hfiles el').trans (hopens el')
    rw [Template.throughout_element, Template.throughout_element, hself, hinside, hafter, reached]
    exact Iff.rfl
  | @loop inLoop u u₁ u₂ item source location body body' rest rest' inside after ihInside ihAfter =>
    rw [Template.throughout_loop] at fresh silent
    have hself : Occurrence.KeepsScope inText ⟨.loop item source body' location, above'⟩ :=
      keepsScope_of_silent silent.1
    have hhidden : ¬ Exposed opens ⟨.loop item source body location, above⟩ :=
      fun ⟨⟨_, _, heq, _⟩, _⟩ => nomatch heq
    have hinside : Throughout (fun o => o.Reached skip → o.KeepsScope inText)
          (.loop item source body' location :: above') body' ↔
        Throughout (fun o => o.Reached skip → ¬ Exposed opens o)
          (.loop item source body location :: above) body := by
      refine ihInside names closed hopens unbound ?_ ?_ fresh.2.1 silent.2.1
      · intro el children hmem
        rcases List.mem_cons.mp hmem with heq | hmem
        · exact nomatch heq
        · exact outermost el children hmem
      · intro node
        rw [Occurrence.reached_loop, Occurrence.reached_loop, reached]
    have hafter : Throughout (fun o => o.Reached skip → o.KeepsScope inText) above' rest' ↔
        Throughout (fun o => o.Reached skip → ¬ Exposed opens o) above rest := by
      refine ihAfter (names.of_extends inside.extends) ?_ ?_ unbound outermost reached fresh.2.2 silent.2.2
      · exact inside.stack.eq_nil.mpr closed
      · exact fun el => (inside.opens el).trans (hopens el)
    rw [Template.throughout_loop, Template.throughout_loop, hinside, hafter]
    exact and_congr_left' (iff_of_true (fun _ => hself) fun _ => hhidden)
  | @leaf inLoop u u' node rest rest' leaf after ih =>
    rw [throughout_leaf leaf] at fresh silent ⊢
    have hself : Occurrence.KeepsScope inText ⟨node, above'⟩ :=
      keepsScope_of_silent silent.1
    have hhidden : ¬ Exposed opens ⟨node, above⟩ := by
      rintro ⟨⟨el, children, rfl, -⟩, -⟩
      exact leaf
    rw [throughout_leaf leaf, ih names closed hopens unbound outermost reached fresh.2 silent.2]
    exact and_congr_left' (iff_of_true (fun _ => hself) fun _ => hhidden)

/-- Weaving leaves the names of the items of loops as they are. -/
theorem Woven.namesItems {inLoop : Bool} {u u' : CompileUnit} {nodes' above' : List Node} {name : String}
    (h : Woven inLoop u nodes nodes' u')
    (items : Throughout (fun o => ¬ o.node.namesItems name) above nodes) :
    Throughout (fun o => ¬ o.node.namesItems name) above' nodes' := by
  induction h generalizing above above' with
  | nil => exact Template.throughout_nil
  | @element inLoop u u₁ u₂ el children children' rest rest' inside after ihInside ihAfter =>
    rw [Template.throughout_element] at items ⊢
    refine ⟨id, Template.throughout_append.mpr ⟨ihInside items.2.1, ?_⟩, ihAfter items.2.2⟩
    exact Template.throughout_statements.mpr fun _ _ => id
  | loop inside after ihInside ihAfter =>
    rw [Template.throughout_loop] at items ⊢
    exact ⟨items.1, ihInside items.2.1, ihAfter items.2.2⟩
  | @leaf inLoop u u' node rest rest' leaf after ih =>
    rw [throughout_leaf leaf] at items ⊢
    exact ⟨items.1, ih items.2⟩

end Forests

section Templates

variable {inText : String → Prop} {u : CompileUnit} {nodes : List Node}

/-- **When `widget` stays in its scope.** Take a template that mentions `widget` nowhere and gives the items of no
loop that name, in a compile unit without open widgets. The woven template mentions `widget` only where a widget
binds it exactly if no element is exposed. The module prints the items of the woven template in order, and they
mention `widget` only inside the functions that bind it exactly if no element is exposed that is printed. -/
theorem widget_in_scope_iff (closed : u.widgets = []) (names : NamesApart u)
    (fresh : Throughout (fun o => o.node.isFresh) [] nodes)
    (silent : Throughout (fun o => ∀ e ∈ o.node.exprs, ¬ e.Mentions inText "widget") [] nodes)
    (items : Throughout (fun o => ¬ o.node.namesItems "widget") [] nodes) :
    let woven := weave u nodes
    (Throughout (fun o => o.KeepsScope inText) [] woven.1 ↔
        Throughout (fun o => ¬ Exposed u.opens o) [] nodes) ∧
      (generate woven.2 woven.1).1.body
        = (Writer.putAll { unit := woven.2 } (printedAll woven.1)).flush.lines ∧
      (Scoped inText [] (printedAll woven.1) ↔
        Throughout (fun o => o.Reached Template.isVoid → ¬ Exposed u.opens o) [] nodes) := by
  have hwoven : Woven false u nodes (weave u nodes).1 (weaveForest false u nodes).2 :=
    weaveForest_woven false u nodes
  -- if nothing is skipped this is about the template, and about the printed items if void elements are
  have hiff : ∀ skip, Throughout (fun o => o.Reached skip → o.KeepsScope inText) [] (weave u nodes).1 ↔
      Throughout (fun o => o.Reached skip → ¬ Exposed u.opens o) [] nodes := by
    intro skip
    refine hwoven.keepsScope_iff names closed (fun _ => rfl) rfl ?_ (fun _ => Iff.rfl) fresh silent
    exact fun _ _ h => absurd h List.not_mem_nil
  refine ⟨?_, generate_body _ _, ?_⟩
  · have hreached : ∀ o, Occurrence.Reached (fun _ => false) o := fun o el children _ => rfl
    simpa only [hreached, forall_const] using hiff fun _ => false
  · rw [← hiff Template.isVoid]
    have hnone : ∀ el children, Node.element el children ∈ [] → Template.isVoid el.tag = false :=
      fun _ _ h => absurd h List.not_mem_nil
    exact (scoped_printedAll rfl hnone (hwoven.namesItems items)).1

/-- A widget with an element that has an id: `widget` stays in its scope. -/
theorem widget_in_scope_of_plain_root :
    let nodes : List Node :=
      [.element { tag := "div", attributes := [⟨"w-bind", some (.str "./w")⟩] }
        [.element { tag := "p", attributes := [⟨"w-id", some (.str "row")⟩] } []]]
    Throughout (fun o => o.KeepsScope fun _ => False) [] (weave {} nodes).1 ∧
      Scoped (fun _ => False) [] (printedAll (weave {} nodes).1) := by
  intro nodes
  have hquiet : Throughout (fun o => ¬ Exposed (CompileUnit.opens {}) o) [] nodes := by
    rintro o ho ⟨⟨el, children, hnode, -, hcustom, -⟩, -⟩
    simp [nodes, Template.occurrencesAll, Node.occurrences] at ho
    rcases ho with rfl | rfl <;> cases hnode <;> cases hcustom
  obtain ⟨htree, -, hprint⟩ := @widget_in_scope_iff (fun _ => False) {} nodes rfl
    (fun _ h => absurd h List.not_mem_nil)
    (by simp [nodes, Node.isFresh])
    (by simp [nodes, Node.exprs, Node.outerExprs, Node.innerExprs])
    (by simp [nodes, Node.namesItems])
  exact ⟨htree.mpr hquiet, hprint.mpr fun o ho _ => hquiet o ho⟩

/-- A custom element that opens a widget and listens to an event: the statement that hands over the event mentions
`widget` before the wrapper that binds it. -/
theorem widget_out_of_scope_of_listening_root :
    let nodes : List Node :=
      [.element { tag := "app-x", custom := true,
                  attributes := [⟨"w-bind", some (.str "./w")⟩, ⟨"w-onclick", some (.str "go")⟩] } []]
    Throughout (fun o => o.node.isFresh) [] nodes ∧
      Throughout (fun o => ∀ e ∈ o.node.exprs, ¬ e.Mentions (fun _ => False) "widget") [] nodes ∧
      Throughout (fun o => ¬ o.node.namesItems "widget") [] nodes ∧
      ¬ Throughout (fun o => o.KeepsScope fun _ => False) [] (weave {} nodes).1 ∧
      ¬ Scoped (fun _ => False) [] (printedAll (weave {} nodes).1) := by
  intro nodes
  let deposit : Expr := (Expr.ident "__widgetArgs").call
    [.out, Expr.widget.member "id", .str "0", .array [.str "click", .str "go"]]
  obtain ⟨el, hwoven, hbefore⟩ :
      ∃ el, (weave {} nodes).1 = [.element el []] ∧ el.before = [.expr deposit] := ⟨_, rfl, rfl⟩
  have hmentions : deposit.Mentions (fun _ => False) "widget" := by simp [deposit, Expr.widget]
  refine ⟨by simp [nodes, Node.isFresh],
    by simp [nodes, Node.exprs, Node.outerExprs, Node.innerExprs],
    by simp [nodes, Node.namesItems], ?_, ?_⟩
  · rw [hwoven, Template.throughout_element]
    rintro ⟨⟨houter, -⟩, -⟩
    have hmem : deposit ∈ (Node.element el []).outerExprs := by simp [Node.outerExprs, hbefore, Stmt.value]
    exact absurd (houter deposit hmem hmentions) (by simp [Occurrence.inBound])
  · rw [hwoven, printedAll, printed, printedOpen, hbefore]
    rintro ⟨hfirst, -⟩
    exact absurd (hfirst deposit (List.mem_singleton_self _) hmentions) (by simp [bindsWidget])

end Templates

end Compile

end WidgetTemplates
