import WidgetTemplates.Proofs.Compile.Header
import WidgetTemplates.Proofs.Compile.Printed
import WidgetTemplates.Proofs.Script.Subexpression

/-!
# What a woven template is built of

Weaving moves the expressions of a template around, through attributes, statements, what is handed over and what an
open widget learns, and it brings in some of its own: literals, parameters of the render function, variables that
hold ids, variables that describe widgets, and calls of helpers. `BuiltExpr`, `BuiltStmt` and `BuiltBinding` list all
that can come about. Each call of a helper and each variable that describes a widget is in the list only if the
variable is declared.

Every edit keeps to the list (`Site.Edit.built`), and so does weaving (`Woven.built`). A property of everything that
is written into a template is therefore proved by one case for each entry of the list.
-/

namespace WidgetTemplates.Compile

open Script (Expr Stmt)
open Template (Attribute Binding Element Everywhere Node)

/-! ## What can be built -/

/-- What weaving can draw on: the expressions, statements and widgets of the template, the names of its loop items, and
the variables at the top of the module. -/
structure Sources where
  expr : Expr → Prop
  stmt : Stmt → Prop
  binding : Binding → Prop
  item : String → Prop
  declarations : List Declaration

/-- A variable of this name is at the top of the module. -/
def Sources.Declare (src : Sources) (name : String) : Prop := ∃ d ∈ src.declarations, d.name = name

section Built

variable (src : Sources)

/-- The expressions that weaving builds: those of the template, variables that describe widgets or hold ids, the
parameters of the functions of a module, and string literals, lists, sums, calls and certain properties of these. -/
inductive BuiltExpr : Expr → Prop
  | given {e : Expr} (own : src.expr e) : BuiltExpr e
  | widgetType {d : Declaration} (declared : d ∈ src.declarations) {u : CompileUnit} {path : String}
    (code : d.code = u.widgetTypeCode path) : BuiltExpr (.ident d.name)
  | parameter {name : String} (known : name ∈ ["out", "data", "widget"]) : BuiltExpr (.ident name)
  | idVariable (n : Nat) : BuiltExpr (.ident ("__widgetId" ++ toString n))
  | str (value : String) : BuiltExpr (.str value)
  | null : BuiltExpr .null
  | member {object : Expr} {key : String} (built : BuiltExpr object)
    (known : key ∈ ["id", "elId", "name", "widgetBody"]) : BuiltExpr (object.member key)
  | call {callee : Expr} {args : List Expr} (built : BuiltExpr callee) (all : ∀ e ∈ args, BuiltExpr e) :
    BuiltExpr (callee.call args)
  | array {items : List Expr} (all : ∀ e ∈ items, BuiltExpr e) : BuiltExpr (.array items)
  | concat {operands : List Expr} (all : ∀ e ∈ operands, BuiltExpr e) : BuiltExpr (.concat operands)

/-- The statements that weaving builds: those of the template, the declarations of variables that hold ids, the call
that renders a body in a slot, and the calls that deposit and clear what is handed over. -/
inductive BuiltStmt : Stmt → Prop
  | given {stmt : Stmt} (own : src.stmt stmt) : BuiltStmt stmt
  | idVariable (n : Nat) {value : Expr} (built : BuiltExpr src value) :
    BuiltStmt (.var ("__widgetId" ++ toString n) value)
  | slot {id body : Expr} (place : BuiltExpr src id) (content : BuiltExpr src body)
      (helper : src.Declare "__widgetBody") :
    BuiltStmt (Site.slotCall id body)
  | deposit {h : Handover} (args : ∀ e ∈ h.args, BuiltExpr src e) (helper : src.Declare "__widgetArgs") :
    BuiltStmt (Site.depositStmt h)
  | clear (helper : src.Declare "_cleanupWidgetArgs") : BuiltStmt Site.clearStmt

/-- The widgets that weaving puts around elements: those of the template and those of roots. -/
inductive BuiltBinding : Binding → Prop
  | given {b : Binding} (own : src.binding b) : BuiltBinding b
  | root {widgetType : Expr} (built : BuiltExpr src widgetType) (helper : src.Declare "__widgetTag") :
    BuiltBinding ⟨.ident "__widgetTag", widgetType⟩

/-- An element that weaving builds: its attribute values, the statements around it and its widget are built. -/
structure BuiltElement (el : Element) : Prop where
  attributes : ∀ a ∈ el.attributes, ∀ e ∈ a.value, BuiltExpr src e
  before : ∀ stmt ∈ el.before, BuiltStmt src stmt
  after : ∀ stmt ∈ el.after, BuiltStmt src stmt
  widget : ∀ b ∈ el.widget, BuiltBinding src b

/-- A node that weaving builds. -/
def BuiltNode : Node → Prop
  | .element el _ => BuiltElement src el
  | .text _ _ => True
  | .expression expr _ => src.expr expr
  | .loop item source _ _ => src.item item ∧ src.expr source
  | .code stmt => BuiltStmt src stmt

/-- A node of the template. -/
def GivenNode : Node → Prop
  | .element el _ =>
    (∀ a ∈ el.attributes, ∀ e ∈ a.value, src.expr e) ∧ (∀ stmt ∈ el.before, src.stmt stmt) ∧
      (∀ stmt ∈ el.after, src.stmt stmt) ∧ ∀ b ∈ el.widget, src.binding b
  | .text _ _ => True
  | .expression expr _ => src.expr expr
  | .loop item source _ _ => src.item item ∧ src.expr source
  | .code stmt => src.stmt stmt

/-- What the open widgets know has been built. -/
def BuiltWidgets (widgets : List OpenWidget) : Prop :=
  ∀ w ∈ widgets, BuiltExpr src w.widgetType ∧ ∀ p ∈ w.pending, BuiltExpr src p.2

/-- What is handed over has been built. -/
structure BuiltHandover (h : Handover) : Prop where
  id : ∀ e ∈ h.id, BuiltExpr src e
  events : ∀ p ∈ h.events, BuiltExpr src p.2
  extension : ∀ x ∈ h.extension, BuiltExpr src x.widgetType ∧ (∀ e ∈ x.config, BuiltExpr src e) ∧
    ∀ e ∈ x.state, BuiltExpr src e

/-- A settled id has been built in both forms, and so has the declaration of its variable. -/
structure BuiltId (a : AssignedId) : Prop where
  nested : BuiltExpr src a.nested
  absolute : BuiltExpr src a.absolute
  declaration : ∀ stmt ∈ a.declaration?, BuiltStmt src stmt

end Built

variable {src : Sources}

/-- A node of the template, seen by what it carries. -/
theorem givenNode_of_exprs {node : Node} (exprs : ∀ e ∈ node.exprs, src.expr e)
    (statements : ∀ stmt ∈ node.statements, src.stmt stmt) (binding : ∀ b ∈ node.binding?, src.binding b)
    (item : ∀ name ∈ node.item?, src.item name) : GivenNode src node := by
  cases node with
  | element el children =>
    refine ⟨?_, fun stmt h => statements stmt (List.mem_append_left _ h),
      fun stmt h => statements stmt (List.mem_append_right _ h), binding⟩
    intro a ha e he
    exact exprs e (List.mem_append_right _ (List.mem_filterMap.mpr ⟨a, ha, he⟩))
  | text => trivial
  | expression expr => exact exprs expr List.mem_cons_self
  | loop name source => exact ⟨item name rfl, exprs source List.mem_cons_self⟩
  | code stmt => exact statements stmt List.mem_cons_self

namespace BuiltElement

variable {el : Element} {name : String} {value : Expr} {stmt : Stmt}

/-- An element of the template is built. -/
theorem of_given {children : List Node} (given : GivenNode src (.element el children)) : BuiltElement src el where
  attributes := fun a ha e he => .given (given.1 a ha e he)
  before := fun stmt hstmt => .given (given.2.1 stmt hstmt)
  after := fun stmt hstmt => .given (given.2.2.1 stmt hstmt)
  widget := fun b hb => .given (given.2.2.2 b hb)

/-- Setting an attribute to a built value keeps an element built. -/
theorem set (h : BuiltElement src el) (name : String) (built : BuiltExpr src value) :
    BuiltElement src (el.set name value) where
  attributes := by
    intro a ha e he
    rcases Element.mem_set ha with rfl | ha
    · obtain rfl := Option.some.inj he
      exact built
    · exact h.attributes a ha e he
  before := h.before
  after := h.after
  widget := h.widget

/-- Removing an attribute keeps an element built. -/
theorem remove (h : BuiltElement src el) (name : String) : BuiltElement src (el.remove name) where
  attributes := fun a ha => h.attributes a (Element.mem_of_mem_remove ha)
  before := h.before
  after := h.after
  widget := h.widget

/-- A built statement may be put in front of an element. -/
theorem insertBefore (h : BuiltElement src el) (built : BuiltStmt src stmt) :
    BuiltElement src (el.insertBefore stmt) where
  attributes := h.attributes
  before := List.forall_mem_append.mpr ⟨h.before, List.forall_mem_singleton.mpr built⟩
  after := h.after
  widget := h.widget

/-- A built statement may be put behind an element. -/
theorem insertAfter (h : BuiltElement src el) (built : BuiltStmt src stmt) :
    BuiltElement src (el.insertAfter stmt) where
  attributes := h.attributes
  before := h.before
  after := List.forall_mem_cons.mpr ⟨built, h.after⟩
  widget := h.widget

end BuiltElement

/-! ## Ids -/

/-- The id of the widget at hand is built. -/
theorem built_widgetId : BuiltExpr src (Expr.widget.member "id") := .member (.parameter (by decide)) (by decide)

/-- The call that asks the widget for the id of an element is built if the nested id is. -/
theorem built_elementIdCall {id : Option Expr} (built : ∀ e ∈ id, BuiltExpr src e) :
    BuiltExpr src (elementIdCall id) :=
  .call (.member (.parameter (by decide)) (by decide)) fun e he => built e (Option.mem_toList.mp he)

namespace BuiltId

/-- The settled forms of an explicit id are built if it is. -/
theorem explicit {id : Expr} (built : BuiltExpr src id) : BuiltId src (.explicit id) where
  nested := built
  absolute := built_elementIdCall fun _ he => Option.some.inj he ▸ built
  declaration := nofun

/-- The settled forms of a numbered id are built. -/
theorem numbered (n : Nat) (repeated : Bool) : BuiltId src (.numbered n repeated) := by
  have hcall : ∀ value : String, BuiltExpr src (elementIdCall (some (.str value))) := fun value =>
    built_elementIdCall fun _ he => Option.some.inj he ▸ .str value
  rw [AssignedId.numbered]
  split
  · refine ⟨.str _, .idVariable n, ?_⟩
    intro stmt hstmt
    obtain rfl := Option.some.inj hstmt
    exact .idVariable n (hcall _)
  · exact ⟨.str _, hcall _, nofun⟩

end BuiltId

namespace Site

/-- Everything that the rules have settled at a site has been built: the element, the statements after its children, the
settled id and what is handed over. What the open widgets have learned there is a matter of its own (`BuiltWidgets`). -/
structure Built (src : Sources) (s : Site) : Prop where
  el : BuiltElement src s.el
  appended : ∀ stmt ∈ s.appended, BuiltStmt src stmt
  assigned : ∀ a ∈ s.assigned, BuiltId src a
  handover : ∀ h ∈ s.handover, BuiltHandover src h

section Built

variable {orig : Element} {late : Bool} {s s' : Site}

/-- At the start only the element is there. -/
theorem Built.start {el : Element} {u : CompileUnit} {inLoop : Bool} (h : BuiltElement src el) :
    (Site.start el u inLoop).Built src :=
  ⟨h, nofun, nofun, nofun⟩

theorem Built.drop (h : s.Built src) (name : String) : (s.drop name).Built src :=
  ⟨h.el.remove name, h.appended, h.assigned, h.handover⟩

theorem Built.withUnit (h : s.Built src) (u : CompileUnit) : ({ s with unit := u } : Site).Built src :=
  ⟨h.el, h.appended, h.assigned, h.handover⟩

theorem Built.setAttr (h : s.Built src) (name : String) {value : Expr} (built : BuiltExpr src value) :
    (s.setAttr name value).Built src :=
  ⟨h.el.set name built, h.appended, h.assigned, h.handover⟩

/-- What has been handed over so far is built, also if that is nothing. -/
theorem Built.handedOver (h : s.Built src) : BuiltHandover src (s.handover.getD {}) := by
  rcases hs : s.handover with _ | given
  · exact ⟨nofun, nofun, nofun⟩
  · exact h.handover given hs

/-- A change of what is handed over keeps a site built if its result is built. -/
theorem Built.handOver (h : s.Built src) {f : Handover → Handover}
    (built : BuiltHandover src (f (s.handover.getD {}))) :
    (s.handOver f).Built src :=
  ⟨h.el, h.appended, h.assigned, fun _ hh => Option.some.inj hh ▸ built⟩

/-- Handing over a built id keeps a site built. -/
theorem Built.setId (h : s.Built src) {id : Expr} (built : BuiltExpr src id) : (s.handOver (·.setId id)).Built src :=
  h.handOver ⟨fun _ he => Option.some.inj he ▸ built, h.handedOver.events, h.handedOver.extension⟩

/-- Settling a built id keeps a site built. -/
theorem Built.settled (h : s.Built src) {a : AssignedId} (built : BuiltId src a) :
    ({ s with assigned := some a } : Site).Built src :=
  ⟨h.el, h.appended, fun _ ha => Option.some.inj ha ▸ built, h.handover⟩

/-- The value of an attribute at a built site is built. -/
theorem Built.find? (h : s.Built src) {name : String} {a : Attribute} (found : s.el.find? name = some a) :
    ∀ e ∈ a.value, BuiltExpr src e :=
  h.el.attributes a (Element.find?_mem found)

/-- The widget of a root gets its id from what is built. -/
theorem Built.bindId (h : s.Built src) : s.bindId.Built src := by
  rw [Site.bindId, takeAttr_eq]
  rcases hf : s.el.find? "w-id" with _ | ⟨name, value⟩
  · exact h.drop _
  · dsimp only
    split
    · exact (h.drop _).withUnit _
    · rcases value with _ | e
      · exact h.drop _
      · exact (h.drop _).setId (h.find? hf e rfl)

/-- The variable of an id is declared with a built value. -/
theorem Built.ensureVariable (h : s.Built src) : s.ensureVariable.Built src := by
  rcases s.ensureVariable_cases with hs | ⟨a, stmt, ha, -, hstmt, hs⟩
  · rwa [hs]
  · rw [hs]
    have hbuilt := h.assigned a ha
    exact Built.settled (s := { s with el := s.el.insertBefore stmt })
      ⟨h.el.insertBefore (hbuilt.declaration stmt hstmt), h.appended, h.assigned, h.handover⟩
      ⟨hbuilt.nested, hbuilt.absolute, hbuilt.declaration⟩

/-- The id that is chosen is a given one or a number. -/
theorem Built.chooseId (h : s.Built src) (repeated : Bool) :
    BuiltId src (s.chooseId repeated).1 ∧ (s.chooseId repeated).2.Built src := by
  rcases s.chooseId_cases repeated with ⟨e, hfound, hchoose⟩ | ⟨-, hchoose⟩
  · rw [hchoose]
    exact ⟨.explicit (h.find? hfound e rfl), h.drop _⟩
  · rw [hchoose]
    exact ⟨.numbered _ _, (h.drop _).withUnit _⟩

/-- Settling an id at a built site keeps it built. -/
theorem Built.assign (h : s.Built src) (repeated : Bool) : (s.assign repeated).Built src := by
  obtain ⟨hid, -⟩ := h.chooseId repeated
  refine assign_induction h ?_ ?_ (fun _ ht => ht.ensureVariable) fun _ ht => ht.setAttr "id" hid.absolute
  · intro e _ hfound
    exact (h.drop "w-id").settled (.explicit (h.find? hfound e rfl))
  · intro _ _
    exact ((h.drop "w-id").withUnit s.unit.takeId.2).settled (.numbered _ _)

/-- Handing over a handler keeps a site built. -/
theorem Built.listen (h : s.Built src) (type : String) {handler : Expr} (built : BuiltExpr src handler) :
    (s.listen type handler).Built src := by
  rw [Site.listen]
  split
  · refine h.handOver ⟨h.handedOver.id, ?_, h.handedOver.extension⟩
    exact List.forall_mem_append.mpr ⟨h.handedOver.events, List.forall_mem_singleton.mpr built⟩
  · have hvalue : BuiltExpr src (.concat [handler, .str "|", Expr.widget.member "id"]) := by
      refine .concat ?_
      simp only [List.forall_mem_cons]
      exact ⟨built, .str _, built_widgetId, List.forall_mem_nil _⟩
    exact (h.setAttr ("data-w-on" ++ type) hvalue).withUnit _

/-! ### What the open widgets learn -/

/-- The open widgets stay built if what the containing widget learns is built. -/
theorem builtWidgets_modifyContaining {u : CompileUnit} {f : OpenWidget → OpenWidget} (h : BuiltWidgets src u.widgets)
    (keeps : ∀ w ∈ u.widgets, BuiltExpr src (f w).widgetType ∧ ∀ p ∈ (f w).pending, BuiltExpr src p.2) :
    BuiltWidgets src (u.modifyContaining f).widgets := by
  rw [CompileUnit.modifyContaining]
  rcases hw : u.widgets with _ | ⟨w, rest⟩
  · exact h
  · rw [hw, BuiltWidgets, List.forall_mem_cons] at h
    exact List.forall_mem_cons.mpr ⟨keeps w (hw ▸ List.mem_cons_self), h.2⟩

/-- Asking the containing widget to listen teaches it no expression. -/
theorem builtWidgets_listen (h : BuiltWidgets src s.unit.widgets) (type : String) (handler : Expr) :
    BuiltWidgets src (s.listen type handler).unit.widgets := by
  rw [Site.listen]
  split
  · exact h
  · exact builtWidgets_modifyContaining h h

/-- An attribute write that is announced to the containing widget is built. -/
theorem builtWidgets_announce (h : BuiltWidgets src s.unit.widgets) (name : String) {value : Expr}
    (built : BuiltExpr src value) : BuiltWidgets src (s.announce name value).unit.widgets := by
  have hpending : ∀ pending : List (String × Expr), (∀ p ∈ pending, BuiltExpr src p.2) →
      ∀ p ∈ OpenWidget.setIn name value pending, BuiltExpr src p.2 := by
    intro pending hall
    induction pending with
    | nil => exact List.forall_mem_singleton.mpr built
    | cons first rest ih =>
      rw [List.forall_mem_cons] at hall
      rw [OpenWidget.setIn]
      split
      · exact List.forall_mem_cons.mpr ⟨built, hall.2⟩
      · exact List.forall_mem_cons.mpr ⟨hall.1, ih hall.2⟩
  refine builtWidgets_modifyContaining h fun w hw => ?_
  exact ⟨(h w hw).1, hpending w.pending (h w hw).2⟩

/-! ### Edits -/

/-- What the template gives has been built. -/
theorem built_given {name : String} {e : Expr} (start : BuiltElement src orig) (given : Given orig name e) :
    BuiltExpr src e := by
  obtain ⟨a, ha, -, hv⟩ := given
  exact start.attributes a ha e hv

/-- The type that an element names is built. -/
theorem built_names {name : String} {widgetType : Expr} (start : BuiltElement src orig)
    (names : NamesType orig name s widgetType) (declared : s.unit.declarations ⊆ src.declarations) :
    BuiltExpr src widgetType := by
  rcases names with given | ⟨d, hd, rfl, path, hcode⟩
  · exact built_given start given
  · exact .widgetType (declared hd) hcode

/-- The default of a body is built. -/
theorem built_providedBody : BuiltExpr src providedBody := .member (.parameter (by decide)) (by decide)

/-- **Every edit keeps to what can be built.** -/
theorem Edit.built (edit : Edit orig late s s') (start : BuiltElement src orig)
    (declared : s'.unit.declarations ⊆ src.declarations) (h : s.Built src) : s'.Built src := by
  have hbefore : s.unit.declarations ⊆ src.declarations := List.Subset.trans edit.extends.subset declared
  cases edit with
  | report p => exact h.withUnit _
  | drop name => exact h.drop name
  | declareType path => exact h.withUnit _
  | enter widgetType =>
    have hbound := h.bindId
    exact ⟨hbound.el, hbound.appended, hbound.assigned, hbound.handover⟩
  | assign repeated => exact h.assign repeated
  | ensureVariable => exact h.ensureVariable
  | handId a settled => exact h.setId (h.assigned a settled).nested
  | listen name type handler given => exact h.listen type (built_given start given)
  | extend widgetType config state names configGiven stateGiven =>
    refine h.handOver ⟨h.handedOver.id, h.handedOver.events, ?_⟩
    intro x hx
    obtain rfl := Option.some.inj hx
    exact ⟨built_names start names hbefore, fun e he => built_given start (configGiven e he),
      fun e he => built_given start (stateGiven e he)⟩
  | label target given =>
    refine h.setAttr "for" (built_elementIdCall ?_)
    intro e he
    obtain rfl := Option.some.inj he
    exact built_given start given
  | takeBody => exact h.drop _
  | announce e => exact h.withUnit _
  | slot id body inside place content =>
    -- a slot stands at the widget or at a settled id, and renders a value of the template or the body handed over
    have hplace : BuiltExpr src id := by
      rcases place with ⟨rfl, -⟩ | ⟨a, ha, rfl, -⟩
      · exact built_widgetId
      · exact (h.assigned a ha).absolute
    have hcontent : BuiltExpr src body := by
      rcases content with given | rfl
      · exact built_given start given
      · exact built_providedBody
    have hhelper : src.Declare "__widgetBody" := by
      obtain ⟨d, hd, hname⟩ := declare_declared s.unit "__widgetBody" _
      exact ⟨d, declared hd, hname⟩
    refine ⟨h.el, ?_, h.assigned, h.handover⟩
    exact List.forall_mem_append.mpr ⟨h.appended, List.forall_mem_singleton.mpr (.slot hplace hcontent hhelper)⟩

/-- Every edit leaves only what can be built with the open widgets. -/
theorem Edit.builtWidgets (edit : Edit orig late s s') (start : BuiltElement src orig)
    (declared : s'.unit.declarations ⊆ src.declarations) (h : s.Built src)
    (widgets : BuiltWidgets src s.unit.widgets) : BuiltWidgets src s'.unit.widgets := by
  have hbefore : s.unit.declarations ⊆ src.declarations := List.Subset.trans edit.extends.subset declared
  cases edit with
  | declareType path =>
    rw [Site.declareType, widgets_widgetType]
    exact widgets
  | enter widgetType names =>
    have hbound : s.bindId.unit.widgets = s.unit.widgets := s.bindId_frame.2.2.2.1
    refine List.forall_mem_cons.mpr ⟨⟨built_names start names hbefore, nofun⟩, ?_⟩
    rwa [hbound]
  | assign repeated =>
    rw [(s.assign_frame repeated).1]
    exact widgets
  | ensureVariable =>
    rw [unit_ensureVariable]
    exact widgets
  | listen name type handler => exact builtWidgets_listen widgets type handler
  | announce e inside place =>
    rcases place with ⟨rfl, -⟩ | ⟨a, ha, rfl⟩
    · exact builtWidgets_announce widgets "body" (.str _)
    · exact builtWidgets_announce widgets "body" (h.assigned a ha).nested
  | slot id body =>
    have hwidgets : (s.slot id body).unit.widgets = s.unit.widgets := widgets_importModule _ _ s.unit
    rw [hwidgets]
    exact widgets
  | _ => exact widgets

/-- The edits at an element keep a site built. -/
theorem Edits.built (edits : Edits orig late s s') (start : BuiltElement src orig)
    (declared : s'.unit.declarations ⊆ src.declarations) (h : s.Built src) : s'.Built src := by
  have hkeeps := edits.keeps (p := fun t => t.unit.declarations ⊆ src.declarations → t.Built src) ?_ (fun _ => h)
  · exact hkeeps declared
  · intro t t' step ih hdeclared
    exact step.built start hdeclared (ih (List.Subset.trans step.extends.subset hdeclared))

/-- The edits at an element teach the open widgets nothing that is not built. -/
theorem Edits.builtWidgets (edits : Edits orig late s s') (start : BuiltElement src orig)
    (declared : s'.unit.declarations ⊆ src.declarations) (h : s.Built src)
    (widgets : BuiltWidgets src s.unit.widgets) : BuiltWidgets src s'.unit.widgets := by
  have hkeeps := edits.keeps
    (p := fun t => t.unit.declarations ⊆ src.declarations → t.Built src ∧ BuiltWidgets src t.unit.widgets) ?_
    (fun _ => ⟨h, widgets⟩)
  · exact (hkeeps declared).2
  · intro t t' step ih hdeclared
    obtain ⟨hbuilt, hwidgets⟩ := ih (List.Subset.trans step.extends.subset hdeclared)
    exact ⟨step.built start hdeclared hbuilt, step.builtWidgets start hdeclared hbuilt hwidgets⟩

/-! ### Closing an element -/

/-- The arguments of the depositing call are built. -/
theorem built_args {h : Handover} (built : BuiltHandover src h) : ∀ e ∈ h.args, BuiltExpr src e := by
  have hoptional : ∀ o : Option Expr, (∀ e ∈ o, BuiltExpr src e) → BuiltExpr src (o.getD .null) := by
    rintro (_ | e) ho
    · exact .null
    · exact ho e rfl
  have hscope : ∀ b : Bool, BuiltExpr src (if b then Expr.widget.member "id" else .null) := by
    rintro (_ | _)
    · exact .null
    · exact built_widgetId
  have hpairs : ∀ e ∈ h.events.flatMap fun e => [Expr.str e.1, e.2], BuiltExpr src e := by
    intro e he
    obtain ⟨p, hp, he⟩ := List.mem_flatMap.mp he
    have hpair : ∀ e ∈ [Expr.str p.1, p.2], BuiltExpr src e :=
      List.forall_mem_cons.mpr ⟨.str _, List.forall_mem_singleton.mpr (built.events p hp)⟩
    exact hpair e he
  rw [Handover.args]
  refine List.forall_mem_append.mpr ⟨List.forall_mem_append.mpr ⟨?_, ?_⟩, ?_⟩
  · simp only [List.forall_mem_cons]
    exact ⟨.parameter (by decide), hscope _, hoptional _ built.id, nofun⟩
  · split
    · split
      · exact List.forall_mem_singleton.mpr .null
      · exact nofun
    · exact List.forall_mem_singleton.mpr (.array hpairs)
  · rcases hx : h.extension with _ | x
    · exact nofun
    · obtain ⟨htype, hconfig, hstate⟩ := built.extension x hx
      simp only [List.forall_mem_cons]
      exact ⟨htype, hoptional _ hconfig, hoptional _ hstate, nofun⟩

theorem subset_declare (u : CompileUnit) (name code : String) :
    u.declarations ⊆ (u.declare name code).declarations := by
  rw [CompileUnit.declare]
  split
  · exact List.Subset.refl _
  · exact List.subset_append_left _ _

/-- The calls around a custom tag are built. -/
theorem Built.surround (h : s.Built src) (declared : s.surround.unit.declarations ⊆ src.declarations) :
    s.surround.Built src := by
  rcases s.surround_cases with ⟨hs, -⟩ | ⟨given, hgiven, -, hs⟩
  · rwa [hs]
  · rw [hs] at declared ⊢
    have hargs : src.Declare "__widgetArgs" := by
      obtain ⟨d, hd, hname⟩ := declare_declared s.unit "__widgetArgs" _
      have hsub : (s.unit.importHelper "__widgetArgs" "marko-widgets/taglib/helpers/widgetArgs").declarations ⊆
          (declareArgs s.unit).declarations := subset_declare _ _ _
      exact ⟨d, declared (hsub hd), hname⟩
    have hclear : src.Declare "_cleanupWidgetArgs" := by
      obtain ⟨d, hd, hname⟩ := declare_declared _ "_cleanupWidgetArgs" _
      exact ⟨d, declared hd, hname⟩
    have hdeposit : BuiltStmt src (depositStmt given) := .deposit (built_args (h.handover given hgiven)) hargs
    exact ⟨(h.el.insertBefore hdeposit).insertAfter (.clear hclear), h.appended, h.assigned, h.handover⟩

/-- The element of a root is built with what its widget has learned. -/
theorem built_finishRoot {el : Element} {w : OpenWidget} (built : BuiltElement src el)
    (type : BuiltExpr src w.widgetType) (pending : ∀ p ∈ w.pending, BuiltExpr src p.2)
    (helper : src.Declare "__widgetTag") : BuiltElement src (finishRoot el w) := by
  -- the pending attributes are written one after the other
  have hwrites : ∀ (writes : List (String × Expr)) (el : Element), (∀ p ∈ writes, BuiltExpr src p.2) →
      BuiltElement src el → BuiltElement src (writes.foldl (fun el p => el.set (pendingName p.1) p.2) el) := by
    intro writes
    induction writes with
    | nil => exact fun _ _ h => h
    | cons p rest ih =>
      intro el hall hel
      rw [List.forall_mem_cons] at hall
      exact ih _ hall.2 (hel.set _ hall.1)
  have htype : BuiltExpr src (w.widgetType.member "name") := .member type (by decide)
  have hnamed := (built.set "id" built_widgetId).set "data-widget" htype
  have hevents : BuiltElement src (if w.domEvents then
      ((el.set "id" (Expr.widget.member "id")).set "data-widget" (w.widgetType.member "name")).set
        "data-w-on" (.str "1")
      else (el.set "id" (Expr.widget.member "id")).set "data-widget" (w.widgetType.member "name")) := by
    split
    · exact hnamed.set _ (.str _)
    · exact hnamed
  have hlast := hwrites w.pending _ pending hevents
  refine ⟨hlast.attributes, hlast.before, hlast.after, ?_⟩
  intro b hb
  obtain rfl := Option.some.inj hb
  exact .root type helper

/-- Closing the innermost widget writes what it knows. -/
theorem Built.leave (h : s.Built src) (declared : s.leave.unit.declarations ⊆ src.declarations)
    (widget : ∀ w ∈ s.unit.widgets.head?, BuiltExpr src w.widgetType ∧ ∀ p ∈ w.pending, BuiltExpr src p.2) :
    s.leave.Built src := by
  rcases s.leave_cases with ⟨-, m, hs⟩ | ⟨w, rest, hw, hs⟩
  · rw [hs]
    exact h.withUnit _
  · rw [hs] at declared ⊢
    have hwidget := widget w (by rw [hw]; rfl)
    have hhelper : src.Declare "__widgetTag" := by
      obtain ⟨d, hd, hname⟩ := declare_declared { s.unit with widgets := rest } "__widgetTag" _
      exact ⟨d, declared hd, hname⟩
    exact ⟨built_finishRoot h.el hwidget.1 hwidget.2 hhelper, h.appended, h.assigned, h.handover⟩

/-- Leaving an element keeps the open widgets built. -/
theorem builtWidgets_leave (h : BuiltWidgets src s.unit.widgets) : BuiltWidgets src s.leave.unit.widgets := by
  rcases s.leave_cases with ⟨-, m, hs⟩ | ⟨w, rest, hw, hs⟩
  · rw [hs]
    exact h
  · rw [hs, CompileUnit.importHelper, widgets_importModule]
    rw [hw, BuiltWidgets, List.forall_mem_cons] at h
    exact h.2

/-- An element is finished with what can be built, if its root draws only on such widgets. -/
theorem Built.close (h : s.Built src) (declared : s.close.unit.declarations ⊆ src.declarations)
    (widgets : s.isRoot = true → ∀ w ∈ s.unit.widgets.head?,
      BuiltExpr src w.widgetType ∧ ∀ p ∈ w.pending, BuiltExpr src p.2) :
    s.close.Built src := by
  obtain ⟨hroot, hwidgets, -⟩ := s.surround_frame
  rw [Site.close] at declared ⊢
  split at declared
  · next root =>
    have hsurround := h.surround (List.Subset.trans s.surround.extends_leave.subset declared)
    rw [if_pos root]
    refine hsurround.leave declared ?_
    rw [hwidgets]
    exact widgets (hroot.symm.trans root)
  · next inner =>
    rw [if_neg inner]
    exact h.surround declared

/-- Closing a widget keeps the others built. -/
theorem builtWidgets_close (h : BuiltWidgets src s.unit.widgets) : BuiltWidgets src s.close.unit.widgets := by
  have hsurround : BuiltWidgets src s.surround.unit.widgets := by
    rwa [s.surround_frame.2.1]
  rw [Site.close]
  split
  · exact builtWidgets_leave hsurround
  · exact hsurround

end Built

end Site

/-- **Weaving keeps to what can be built**, whatever variables the module has at the end, as long as they include
those that weaving declares. -/
theorem Woven.built {inLoop : Bool} {u u' : CompileUnit} {nodes nodes' : List Node} (h : Woven inLoop u nodes nodes' u')
    (declared : u'.declarations ⊆ src.declarations) (widgets : BuiltWidgets src u.widgets)
    (given : Everywhere (GivenNode src) nodes) :
    BuiltWidgets src u'.widgets ∧ Everywhere (BuiltNode src) nodes' := by
  induction h with
  | nil => exact ⟨widgets, nofun⟩
  | @element inLoop u u₁ u₂ el children children' rest rest' inside after ihInside ihAfter =>
    obtain ⟨hel, hchildren, hrest⟩ := Template.everywhere_element.mp given
    -- variables are only added, so those of every step are among those of the end
    have hlast := List.Subset.trans after.extends.subset declared
    have hinside := List.Subset.trans (Site.extends_finished el u u₁ inLoop).subset hlast
    have hstart : (Site.start el u inLoop).Built src := .start (.of_given hel)
    have hdeclared := List.Subset.trans inside.extends.subset hinside
    have hrules := (Site.start_edits el u inLoop).built (.of_given hel) hdeclared hstart
    have hopened := (Site.start_edits el u inLoop).builtWidgets (.of_given hel) hdeclared hstart widgets
    obtain ⟨hunit, hchildren'⟩ := ihInside hinside hopened hchildren
    have hfinished : (Site.finished el u inLoop u₁).Built src :=
      (hrules.withUnit u₁).close hlast fun _ w hw => hunit w (List.mem_of_mem_head? hw)
    have hclosed : BuiltWidgets src (Site.finished el u inLoop u₁).unit.widgets := Site.builtWidgets_close hunit
    obtain ⟨hwidgets, hrest'⟩ := ihAfter declared hclosed hrest
    refine ⟨hwidgets, Template.everywhere_element.mpr ⟨hfinished.el, ?_, hrest'⟩⟩
    exact Template.throughout_append.mpr ⟨hchildren', Template.throughout_statements.mpr hfinished.appended⟩
  | loop inside after ihInside ihAfter =>
    obtain ⟨hown, hbody, hrest⟩ := Template.everywhere_loop.mp given
    obtain ⟨hunit, hbody'⟩ := ihInside (List.Subset.trans after.extends.subset declared) widgets hbody
    obtain ⟨hwidgets, hrest'⟩ := ihAfter declared hunit hrest
    exact ⟨hwidgets, Template.everywhere_loop.mpr ⟨hown, hbody', hrest'⟩⟩
  | @leaf inLoop u u' node rest rest' leaf after ih =>
    obtain ⟨hown, hrest⟩ := (throughout_leaf leaf).mp given
    obtain ⟨hwidgets, hrest'⟩ := ih declared widgets hrest
    have hnode : BuiltNode src node := by
      cases node with
      | element => exact leaf.elim
      | code stmt => exact .given hown
      | _ => exact hown
    exact ⟨hwidgets, (throughout_leaf leaf).mpr ⟨hnode, hrest'⟩⟩

/-! ## In print -/

/-- The items that what weaving builds is printed as. -/
inductive BuiltItem (src : Sources) : Item → Prop
  | markup (text : String) : BuiltItem src (.markup text)
  | stmt {s : Stmt} (built : BuiltStmt src s) : BuiltItem src (.stmt s)
  | helper (function : String) {args : List Expr} (built : ∀ e ∈ args, BuiltExpr src e) :
    BuiltItem src (.helper function args)
  | openWidget {b : Binding} (built : BuiltBinding src b) : BuiltItem src (.openWidget b)
  | openLoop {item : String} {source : Expr} (named : src.item item) (own : src.expr source) :
    BuiltItem src (.openLoop item source)
  | close : BuiltItem src .close

/-- An attribute of a built element is printed as a built item. -/
theorem BuiltElement.attr {el : Element} (h : BuiltElement src el) {a : Attribute} (mem : a ∈ el.attributes) :
    BuiltItem src (printedAttr a) := by
  have hvalue := h.attributes a mem
  obtain ⟨name, value⟩ := a
  rcases value with _ | e
  · exact .markup _
  · have hargs : ∀ e' ∈ [Expr.str name, e], BuiltExpr src e' :=
      List.forall_mem_cons.mpr ⟨.str _, List.forall_mem_singleton.mpr (hvalue e rfl)⟩
    -- a literal value is markup, and any other one is computed
    cases e with
    | str value => exact .markup _
    | _ => exact .helper "a" hargs

/-- What a built node is printed as by itself is built. -/
theorem BuiltNode.items {node : Node} (h : BuiltNode src node) : ∀ item ∈ ownItems node, BuiltItem src item := by
  intro item own
  cases node with
  | text value =>
    obtain rfl := List.mem_singleton.mp own
    exact .markup _
  | expression expr =>
    obtain rfl := List.mem_singleton.mp own
    exact .helper "x" (List.forall_mem_singleton.mpr (.given h))
  | code stmt =>
    obtain rfl := List.mem_singleton.mp own
    exact .stmt h
  | loop loopItem source =>
    rcases List.mem_cons.mp own with rfl | hclose
    · exact .openLoop h.1 h.2
    · obtain rfl := List.mem_singleton.mp hclose
      exact .close
  | element el children =>
    rcases mem_ownItems_element own with ⟨s, hs, rfl⟩ | ⟨b, hb, rfl⟩ | ⟨a, ha, rfl⟩ | ⟨text, rfl⟩ | rfl
    · exact .stmt ((List.mem_append.mp hs).elim (h.before s) (h.after s))
    · exact .openWidget (h.widget b hb)
    · exact h.attr ha
    · exact .markup _
    · exact .close

/-- What a built forest is printed as is built. -/
theorem built_printedAll {nodes : List Node} (h : Everywhere (BuiltNode src) nodes) :
    ∀ item ∈ printedAll nodes, BuiltItem src item := by
  intro item hitem
  obtain ⟨o, ho, hown⟩ := mem_printedAll [] hitem
  exact BuiltNode.items (h o ho) item hown

/-! ## Helpers in what is built -/

/-- What weaving builds mentions helpers only as variables that describe widgets, if the template mentions none. -/
theorem BuiltExpr.describes {inText : String → Prop} {name : String} {e : Expr} (h : BuiltExpr src e)
    (helper : IsHelperName name) (apart : ∀ e, src.expr e → ¬ e.Mentions inText name)
    (mentions : e.Mentions inText name) :
    ∃ d ∈ src.declarations, d.name = name ∧ ∃ (u : CompileUnit) (path : String), d.code = u.widgetTypeCode path := by
  induction h with
  | given own => exact absurd mentions (apart _ own)
  | @widgetType d declared u path code => exact ⟨d, declared, Expr.mentions_ident.mp mentions, u, path, code⟩
  | parameter known =>
    obtain rfl := Expr.mentions_ident.mp mentions
    exact absurd helper (not_isHelperName_parameter _ (by simp at known ⊢; tauto))
  | idVariable n =>
    obtain rfl := Expr.mentions_ident.mp mentions
    exact absurd helper (not_isHelperName_idVariable n)
  | str value => exact absurd mentions Expr.mentions_str
  | null => exact absurd mentions Expr.mentions_null
  | member built known ih => exact ih (Expr.mentions_member.mp mentions)
  | call built all ih ihAll =>
    rcases Expr.mentions_call.mp mentions with hcallee | ⟨e, he, hm⟩
    · exact ih hcallee
    · exact ihAll e he hm
  | array all ih =>
    obtain ⟨e, he, hm⟩ := Expr.mentions_array.mp mentions
    exact ih e he hm
  | concat all ih =>
    obtain ⟨e, he, hm⟩ := Expr.mentions_concat.mp mentions
    exact ih e he hm

end WidgetTemplates.Compile
