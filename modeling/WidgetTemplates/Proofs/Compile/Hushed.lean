import WidgetTemplates.Proofs.Compile.Events
import WidgetTemplates.Proofs.Compile.Header
import WidgetTemplates.Proofs.Script.Subexpression

/-!
# Outside every widget

The rules bring in mentions of `widget` only in a widget. At an element that no widget encloses they mention it
nowhere as long as the element opens no widget of its own, and whatever is handed over or stands before the
element never mentions it (`Site.Hushed`, kept by every edit: `Site.Edit.hushed`). This takes that the
expressions of the template do not mention `widget`, and that no variable at the top of the module has that
name, which weaving makes sure of (`NamesApart.of_extends`).
-/

namespace WidgetTemplates.Compile

open Script (Expr Stmt)
open Template (Element Node)

/-! ## Names at the top of the module -/

/-- No variable at the top of the module is named `widget`. -/
def NamesApart (u : CompileUnit) : Prop := ∀ d ∈ u.declarations, d.name ≠ "widget"

/-- Nothing that a unit is extended by is named so. -/
theorem NamesApart.of_extends {u u' : CompileUnit} (apart : NamesApart u) (h : u.Extends u') : NamesApart u' := by
  refine h.forall_declarations apart ?_
  intro ds d follows heq
  have hname := follows.isHelperName
  rw [heq] at hname
  exact not_isHelperName (by decide) (by decide) hname

/-! ## Outside every widget -/

section Hushed

variable (inText : String → Prop)

/-- What is handed over mentions `widget` in none of its parts. -/
structure HushedHandover (h : Handover) : Prop where
  id : ∀ e ∈ h.id, ¬ e.Mentions inText "widget"
  events : ∀ p ∈ h.events, ¬ p.2.Mentions inText "widget"
  extension : ∀ x ∈ h.extension, ¬ x.widgetType.Mentions inText "widget" ∧
    (∀ e ∈ x.config, ¬ e.Mentions inText "widget") ∧ ∀ e ∈ x.state, ¬ e.Mentions inText "widget"

/-- The site of the element `orig` that no widget encloses. Before it opens its own widget it is in none (`outside`),
and nothing at it mentions `widget`: neither what it hands over nor its attributes do, and nothing is rendered after its
children. Whatever is handed over never does, and no statement stands before the element but its own. -/
structure Site.Hushed (orig : Element) (s : Site) : Prop where
  names : NamesApart s.unit
  honest : Site.Honest orig s
  before : s.el.before = orig.before
  assigned : ∀ a, s.assigned = some a → ¬ a.nested.Mentions inText "widget"
  handover : HushedHandover inText s.handedOver
  outside : s.isRoot = false → s.inWidget = false
  unreferred : s.isRoot = false → ¬ s.RefersToWidget
  attributes : s.isRoot = false → ∀ a ∈ s.el.attributes, ∀ e ∈ a.value, ¬ e.Mentions inText "widget"
  appended : s.isRoot = false → s.appended = []

/-- The values of the attributes of an element do not mention `widget`. -/
def HushedAttributes (el : Element) : Prop :=
  ∀ a ∈ el.attributes, ∀ e ∈ a.value, ¬ e.Mentions inText "widget"

variable {inText} {orig : Element} {late : Bool} {s s' : Site}

/-- A value that the element was given does not mention `widget`. -/
theorem HushedAttributes.given {name : String} {e : Expr} (h : HushedAttributes inText orig)
    (given : Given orig name e) : ¬ e.Mentions inText "widget" := by
  obtain ⟨a, ha, -, hv⟩ := given
  exact h a ha e hv

/-- A widget type that has a name does not mention `widget`. -/
theorem HushedAttributes.names {name : String} {widgetType : Expr} (h : HushedAttributes inText orig)
    (apart : NamesApart s.unit) (names : Site.NamesType orig name s widgetType) :
    ¬ widgetType.Mentions inText "widget" := by
  rcases names with given | ⟨d, hd, rfl, -⟩
  · exact h.given given
  · rw [Expr.mentions_ident]
    exact apart d hd

namespace Site

/-- A change that touches neither the element nor what is said about it. -/
theorem Hushed.of_frame (h : Hushed inText orig s) (names : NamesApart s'.unit) (el : s'.el = s.el)
    (assigned : s'.assigned = s.assigned) (handover : HushedHandover inText s'.handedOver)
    (unreferred : s'.isRoot = false → ¬ s'.RefersToWidget) (isRoot : s'.isRoot = s.isRoot)
    (inWidget : s'.inWidget = s.inWidget) (appended : s'.isRoot = false → s'.appended = s.appended) :
    Hushed inText orig s' where
  names := names
  honest := by rw [Honest, el]; exact h.honest
  before := el ▸ h.before
  assigned := assigned ▸ h.assigned
  handover := handover
  outside := by rw [isRoot, inWidget]; exact h.outside
  unreferred := unreferred
  attributes := by rw [isRoot, el]; exact h.attributes
  appended := fun outer => (appended outer).trans (h.appended (isRoot ▸ outer))

/-- At an element that lies in a widget, which can only be its own. -/
theorem Hushed.isRoot (h : Hushed inText orig s) (inside : s.inWidget = true) : s.isRoot = true := by
  by_contra outer
  exact absurd (h.outside (by simpa using outer)) (by simp [inside])

/-- Dropping an attribute keeps a site hushed. -/
theorem Hushed.drop (h : Hushed inText orig s) (name : String) : Hushed inText orig (s.drop name) where
  names := h.names
  honest := h.honest.drop name
  before := h.before
  assigned := h.assigned
  handover := h.handover
  outside := h.outside
  unreferred := h.unreferred
  attributes := fun outer a ha => h.attributes outer a (Element.mem_of_mem_remove ha)
  appended := h.appended

/-- A change to the attributes or the slot of a root. -/
theorem Hushed.of_root (h : Hushed inText orig s) (root : s'.isRoot = true) (names : NamesApart s'.unit)
    (honest : Honest orig s') (before : s'.el.before = s.el.before) (assigned : s'.assigned = s.assigned)
    (handover : s'.handover = s.handover) : Hushed inText orig s' where
  names := names
  honest := honest
  before := before.trans h.before
  assigned := assigned ▸ h.assigned
  handover := by rw [handedOver, handover]; exact h.handover
  outside := fun outer => absurd (root.symm.trans outer) (by simp)
  unreferred := fun outer => absurd (root.symm.trans outer) (by simp)
  attributes := fun outer => absurd (root.symm.trans outer) (by simp)
  appended := fun outer => absurd (root.symm.trans outer) (by simp)

/-- Settling the id of a root that is a custom element. -/
theorem Hushed.assign (h : Hushed inText orig s) (silent : HushedAttributes inText orig) (repeated : Bool)
    (inside : s.inWidget = true) (unsettled : s.assigned = none)
    (custom : s.isRoot = true → s.el.custom = true) : Hushed inText orig (s.assign repeated) := by
  have root := h.isRoot inside
  have hassign : s.assign repeated =
      { (s.chooseId repeated).2 with assigned := some (s.chooseId repeated).1 } := by
    rw [assign_eq unsettled]
    exact if_pos (custom root)
  rw [hassign]
  -- the id is given by the element, or it is a literal
  rcases s.chooseId_cases repeated with ⟨e, hfound, hchoose⟩ | ⟨-, hchoose⟩
  · rw [hchoose]
    have htaken : Hushed inText orig (s.drop "w-id") := h.drop "w-id"
    have hgiven : Given orig "w-id" e := h.honest.given hfound rfl rfl
    refine ⟨h.names, htaken.honest, h.before, ?_, h.handover, h.outside, h.unreferred,
      htaken.attributes, h.appended⟩
    intro a ha
    obtain rfl := Option.some.inj ha
    exact silent.given hgiven
  · rw [hchoose]
    have htaken : Hushed inText orig (s.drop "w-id") := h.drop "w-id"
    refine ⟨h.names, htaken.honest, h.before, ?_, h.handover, h.outside, h.unreferred,
      htaken.attributes, h.appended⟩
    intro a ha
    obtain rfl := Option.some.inj ha
    cases repeated <;> exact Expr.mentions_str

/-- Outside a widget nothing is handed over when the widget of an element is opened. -/
theorem bindId_outside (outside : s.inWidget = false) :
    s.bindId.handover = s.handover ∧ s.bindId.el.before = s.el.before := by
  rcases s.bindId_cases with hs | ⟨-, hs⟩ | ⟨inside, -⟩
  · rw [hs]
    exact ⟨rfl, rfl⟩
  · rw [hs]
    exact ⟨rfl, rfl⟩
  · exact absurd (inside.symm.trans outside) (by simp)

/-- **Every edit outside a widget is hushed.** -/
theorem Edit.hushed (edit : Edit orig late s s') (silent : HushedAttributes inText orig)
    (h : Hushed inText orig s) : Hushed inText orig s' := by
  have names := h.names.of_extends edit.extends
  have honest := edit.honest h.honest
  cases edit with
  | report p => exact h.of_frame names rfl rfl h.handover h.unreferred rfl rfl fun _ => rfl
  | drop name => exact h.drop name
  | declareType path =>
    have inside := inWidget_declareType s path
    exact h.of_frame names rfl rfl h.handover h.unreferred rfl inside fun _ => rfl
  | enter widgetType hnames outer unsettled =>
    obtain ⟨hhandover, hbefore⟩ := bindId_outside (h.outside outer)
    exact h.of_root rfl names honest hbefore s.bindId_frame.2.1 hhandover
  | assign repeated inside unsettled custom => exact h.assign silent repeated inside unsettled custom
  | ensureVariable inside inner => exact absurd ((h.isRoot inside).symm.trans inner) (by simp)
  | handId a settled inside custom =>
    have root := h.isRoot inside
    refine h.of_frame names rfl rfl ⟨?_, h.handover.events, h.handover.extension⟩ ?_ rfl rfl fun _ => rfl
    · intro e he
      obtain rfl := Option.some.inj he
      exact h.assigned a settled
    · exact fun outer => absurd (root.symm.trans outer) (by simp)
  | listen name type handler given named inside =>
    have root := h.isRoot inside
    -- an ordinary root writes an attribute, a custom one hands the handler over
    rcases hc : s.el.custom with _ | _
    · rw [Site.listen, hc, if_neg (by simp)] at names honest ⊢
      exact h.of_root root names honest rfl rfl rfl
    · rw [Site.listen, hc, if_pos rfl] at names honest ⊢
      refine h.of_frame names rfl rfl ⟨h.handover.id, ?_, h.handover.extension⟩ ?_ rfl rfl fun _ => rfl
      · intro p hp
        rcases List.mem_append.mp hp with hp | hp
        · exact h.handover.events p hp
        · obtain rfl := List.mem_singleton.mp hp
          exact silent.given given
      · exact fun outer => absurd (root.symm.trans outer) (by simp)
  | extend widgetType config state hnames configGiven stateGiven =>
    refine h.of_frame names rfl rfl ⟨h.handover.id, h.handover.events, ?_⟩ h.unreferred rfl rfl
      fun _ => rfl
    intro x hx
    obtain rfl := Option.some.inj hx
    exact ⟨silent.names h.names hnames, fun e he => silent.given (configGiven e he),
      fun e he => silent.given (stateGiven e he)⟩
  | label target given inside => exact h.of_root (h.isRoot inside) names honest rfl rfl rfl
  | takeBody inside => exact h.drop _
  | announce e inside => exact h.of_root (h.isRoot inside) names honest rfl rfl rfl
  | slot id body inside => exact h.of_root (h.isRoot inside) names honest rfl rfl rfl

/-- The edits at an element keep its site hushed. -/
theorem Edits.hushed (edits : Edits orig late s s') (silent : HushedAttributes inText orig)
    (h : Hushed inText orig s) : Hushed inText orig s' :=
  edits.keeps (fun _ _ step => step.hushed silent) h

/-- An element that no widget encloses is hushed as long as no rule has been applied to it. -/
theorem hushed_start {el : Element} {u : CompileUnit} {inLoop : Bool} (silent : HushedAttributes inText el)
    (names : NamesApart u) (closed : u.widgets = []) : Hushed inText el (start el u inLoop) where
  names := names
  honest := honest_start el u inLoop
  before := rfl
  assigned := nofun
  handover := ⟨nofun, nofun, nofun⟩
  outside := fun _ => by
    rw [← Bool.not_eq_true, inWidget_iff]
    exact fun opened => opened closed
  unreferred := by simp [start, RefersToWidget, handedOver]
  attributes := fun _ => silent
  appended := fun _ => rfl

end Site

end Hushed

end WidgetTemplates.Compile
