import Mathlib.Logic.Relation
import Mathlib.Tactic.ByContra
import WidgetTemplates.Compile.Attributes
import WidgetTemplates.Proofs.Template.Attributes

/-!
# What the rules can do to a site

The rules for widget attributes change a site in few ways. `Site.Edit` lists them, each with the facts that
hold whenever a rule does it: where the expressions come from that it brings in, and whether the element lies
in a widget. The lemmas say what each kind of change leaves alone.

An edit is relative to the element as the rules found it: an expression is *given* for a name if that element
had an attribute of this name with the expression as its value.
-/

namespace WidgetTemplates.Compile

open Script (Expr Stmt)
open Template (Element Node Problem Attribute)
open Relation (ReflTransGen)

/-- Whether a name is one that the rules may take an attribute of. -/
def isWidgetName (name : String) : Bool := "w-".toList.isPrefixOf name.toList

/-- The element has an attribute of this name with this value. -/
def Given (el : Element) (name : String) (e : Expr) : Prop :=
  ∃ a ∈ el.attributes, a.name = name ∧ a.value = some e

/-- The element marks the place of a body that the creator of the widget provides. -/
def TakesProvidedBody (el : Element) : Prop := el.has "w-body" = true ∧ el.value? "w-body" = none

namespace Site

/-- The site of an element that no rule has been applied to. -/
def start (el : Element) (u : CompileUnit) (inLoop : Bool) : Site :=
  { el, unit := u, inLoop }

/-- The site without an attribute. -/
def drop (s : Site) (name : String) : Site := (s.takeAttr name).2

/-- Declares what describes the widget in a module. -/
def declareType (s : Site) (path : String) : Site :=
  { s with unit := (s.unit.widgetType path).2 }

/-- Has the root write an attribute. -/
def announce (s : Site) (name : String) (value : Expr) : Site :=
  { s with unit := s.unit.modifyContaining fun w => w.set name value }

/-- The call that renders a body in a slot. -/
def slotCall (id body : Expr) : Stmt :=
  .expr ((Expr.ident "__widgetBody").call [.out, id, body, .widget])

/-- Renders a body after the children of the element. -/
def slot (s : Site) (id body : Expr) : Site :=
  { s with unit := s.unit.importHelper "__widgetBody" "marko-widgets/taglib/helpers/widgetBody"
           appended := s.appended ++ [slotCall id body] }

/-- Renders a body in the slot that has been prepared for it. -/
def fill (prepared : Expr × Expr × Site) : Site := prepared.2.2.slot prepared.1 prepared.2.1

/-- A widget type that an attribute stands for: one that is given, or the variable that describes the widget in a
module. -/
def NamesType (orig : Element) (name : String) (s : Site) (widgetType : Expr) : Prop :=
  Given orig name widgetType ∨
    ∃ d ∈ s.unit.declarations, widgetType = .ident d.name ∧ ∃ path, d.code = s.unit.widgetTypeCode path

/-- One change that a rule can make at the site of the element `orig`. `late` tells whether the last rule, the one for
`w-body`, has its turn.
* A problem may be reported, an attribute taken, and the variable of a module declared. The id of an element in a widget
is only taken to settle it.
* The widget of the element is opened after the id that the widget around it gives it.
* An id is settled once. Below a loop it is a repeated one, except for the place of a provided body. Its variable may be
declared, and a custom element may hand it over.
* Events are listened to, a base widget is handed over, and a label is pointed at an element.
* Late, the mark of a body slot is taken, the place of a provided body is announced to the root, and a body is rendered
after the children. -/
inductive Edit (orig : Element) : Bool → Site → Site → Prop
  | report {late : Bool} {s : Site} (p : Problem) : Edit orig late s (s.report p)
  | drop {late : Bool} {s : Site} (name : String) (widgetName : isWidgetName name = true)
    (noBody : name ≠ "w-body") (noId : name = "w-id" → s.inWidget = false) :
    Edit orig late s (s.drop name)
  | declareType {late : Bool} {s : Site} (path : String) : Edit orig late s (s.declareType path)
  | enter {late : Bool} {s : Site} (widgetType : Expr) (names : NamesType orig "w-bind" s widgetType)
    (outer : s.isRoot = false) (unsettled : s.assigned = none) :
    Edit orig late s (s.bindId.enter widgetType)
  | assign {late : Bool} {s : Site} (repeated : Bool) (inside : s.inWidget = true)
    (unsettled : s.assigned = none) (custom : s.isRoot = true → s.el.custom = true)
    (single : repeated = false → s.inLoop = false ∨ TakesProvidedBody orig) :
    Edit orig late s (s.assign repeated)
  | ensureVariable {late : Bool} {s : Site} (inside : s.inWidget = true) (inner : s.isRoot = false) :
    Edit orig late s s.ensureVariable
  | handId {late : Bool} {s : Site} (a : AssignedId) (settled : s.assigned = some a)
    (inside : s.inWidget = true) (custom : s.el.custom = true) :
    Edit orig late s (s.handOver (·.setId a.nested))
  | listen {late : Bool} {s : Site} (name type : String) (handler : Expr)
    (given : Given orig name handler) (named : eventType? name = some type)
    (inside : s.inWidget = true) : Edit orig late s (s.listen type handler)
  | extend {late : Bool} {s : Site} (widgetType : Expr) (config state : Option Expr)
    (names : NamesType orig "w-extend" s widgetType)
    (configGiven : ∀ e ∈ config, Given orig "w-config" e)
    (stateGiven : ∀ e ∈ state, Given orig "w-state" e) :
    Edit orig late s (s.handOver (·.setExtension widgetType config state))
  | label {late : Bool} {s : Site} (target : Expr) (given : Given orig "w-for" target)
    (inside : s.inWidget = true) : Edit orig late s (s.setAttr "for" (elementIdCall (some target)))
  | takeBody {s : Site} (inside : s.inWidget = true) : Edit orig true s (s.drop "w-body")
  | announce {s : Site} (e : Expr) (inside : s.inWidget = true)
    (place : e = .str "" ∧ s.isRoot = true ∨ ∃ a, s.assigned = some a ∧ e = a.nested) :
    Edit orig true s (s.announce "body" e)
  | slot {s : Site} (id body : Expr) (inside : s.inWidget = true)
    (place : id = Expr.widget.member "id" ∧ s.isRoot = true ∨
      ∃ a, s.assigned = some a ∧ id = a.absolute ∧ (a.declared = true ∨ a.varName = none))
    (content : Given orig "w-body" body ∨ body = providedBody) : Edit orig true s (s.slot id body)

/-- A sequence of changes. -/
abbrev Edits (orig : Element) (late : Bool) : Site → Site → Prop := ReflTransGen (Edit orig late)

/-- What every edit keeps, a sequence of edits keeps. -/
theorem Edits.keeps {orig : Element} {late : Bool} {s s' : Site} {p : Site → Prop} (h : Edits orig late s s')
    (step : ∀ t t', Edit orig late t t' → p t → p t') (start : p s) : p s' := by
  induction h with
  | refl => exact start
  | tail _ edit ih => exact step _ _ edit ih

/-- The widget attributes that are left have been there from the start. -/
def Honest (orig : Element) (s : Site) : Prop :=
  ∀ a ∈ s.el.attributes, isWidgetName a.name = true → a ∈ orig.attributes

/-! ## What the operations leave alone -/

section Frames

variable (s : Site) (name path : String) (value : Expr)

/-- Taking an attribute finds it and drops it. -/
theorem takeAttr_eq : s.takeAttr name = (s.el.find? name, s.drop name) := rfl

variable {s name} in
/-- Dropping an attribute that is not there changes nothing. -/
theorem drop_of_find?_none (h : s.el.find? name = none) : s.drop name = s := by
  rw [drop, takeAttr, Element.remove_of_find?_none h]

@[simp] theorem inWidget_drop : (s.drop name).inWidget = s.inWidget := rfl

@[simp] theorem unit_drop : (s.drop name).unit = s.unit := rfl

/-- Whether an element lies in a widget depends on the open widgets only. -/
theorem inWidget_congr {s s' : Site} (h : s'.unit.widgets = s.unit.widgets) : s'.inWidget = s.inWidget := by
  rw [inWidget, inWidget, containing?, containing?, CompileUnit.containing?, CompileUnit.containing?, h]

/-- An element lies in a widget exactly if one is open. -/
theorem inWidget_iff {s : Site} : s.inWidget = true ↔ s.unit.widgets ≠ [] := by
  rw [inWidget, containing?, CompileUnit.containing?, List.isSome_head?]

/-- Teaching the containing widget opens and closes none. -/
theorem inWidget_modifyContaining {s s' : Site} {f : OpenWidget → OpenWidget}
    (h : s'.unit = s.unit.modifyContaining f) : s'.inWidget = s.inWidget := by
  rw [Bool.eq_iff_iff, inWidget_iff, inWidget_iff, h, CompileUnit.modifyContaining]
  split <;> simp_all

/-- Declaring a variable changes the declarations only. -/
theorem declare_frame (u : CompileUnit) (name code : String) :
    ∃ ds, u.declare name code = { u with declarations := ds } := by
  rw [CompileUnit.declare]
  split
  · exact ⟨u.declarations, rfl⟩
  · exact ⟨_, rfl⟩

/-- Describing the widget in a module changes the declarations only. -/
theorem widgetType_frame (u : CompileUnit) (path : String) :
    ∃ ds, (u.widgetType path).2 = { u with declarations := ds } := by
  rw [CompileUnit.widgetType, CompileUnit.declareOnce]
  split
  · exact ⟨u.declarations, rfl⟩
  · exact declare_frame u _ _

@[simp] theorem widgets_declare (u : CompileUnit) :
    (u.declare name path).widgets = u.widgets := by
  obtain ⟨ds, h⟩ := declare_frame u name path
  rw [h]

@[simp] theorem widgets_importModule (u : CompileUnit) :
    (u.importModule name path).widgets = u.widgets :=
  widgets_declare _ _ u

@[simp] theorem widgets_widgetType (u : CompileUnit) :
    (u.widgetType path).2.widgets = u.widgets := by
  obtain ⟨ds, h⟩ := widgetType_frame u path
  rw [h]

@[simp] theorem inWidget_declareType : (s.declareType path).inWidget = s.inWidget :=
  inWidget_congr (widgets_widgetType path s.unit)

@[simp] theorem inWidget_announce : (s.announce name value).inWidget = s.inWidget :=
  inWidget_modifyContaining rfl

@[simp] theorem isRoot_announce : (s.announce name value).isRoot = s.isRoot := rfl

/-- Listening to an event changes neither the widgets around the element nor its settled id. -/
theorem listen_frame (s : Site) (type : String) (handler : Expr) :
    (s.listen type handler).isRoot = s.isRoot ∧
      (s.listen type handler).inWidget = s.inWidget ∧
      (s.listen type handler).el.custom = s.el.custom ∧
      (s.listen type handler).assigned = s.assigned := by
  unfold listen
  split
  · exact ⟨rfl, rfl, rfl, rfl⟩
  · exact ⟨rfl, inWidget_modifyContaining rfl, rfl, rfl⟩

end Frames

/-! ## Settling the id -/

section Settling

variable {s : Site} {a : AssignedId} {repeated : Bool}

/-- A settled id is not settled again. -/
theorem assign_of_settled (h : s.assigned = some a) : s.assign repeated = s := by
  simp [assign, h]

/-- The id of an element is the value of `w-id`, or else the next number. -/
theorem chooseId_cases (s : Site) (repeated : Bool) :
    (∃ e, s.el.find? "w-id" = some ⟨"w-id", some e⟩ ∧
        s.chooseId repeated = (.explicit e, s.drop "w-id")) ∨
      (s.el.value? "w-id" = none ∧
        s.chooseId repeated = (.numbered s.unit.nextId repeated,
          { s.drop "w-id" with unit := s.unit.takeId.2 })) := by
  rw [chooseId, takeAttr_eq]
  rcases hf : s.el.find? "w-id" with _ | ⟨n, _ | e⟩
  · exact .inr ⟨by rw [Element.value?, hf]; rfl, rfl⟩
  · exact .inr ⟨by rw [Element.value?, hf]; rfl, rfl⟩
  · obtain rfl : n = "w-id" := Element.find?_name hf
    exact .inl ⟨e, rfl, rfl⟩

/-- Declaring the variable of the id either changes nothing, or puts the declaration before the element. -/
theorem ensureVariable_cases (s : Site) :
    s.ensureVariable = s ∨
      ∃ a stmt, s.assigned = some a ∧ a.declared = false ∧ a.declaration? = some stmt ∧
        s.ensureVariable
          = { s with el := s.el.insertBefore stmt, assigned := some { a with declared := true } } := by
  unfold ensureVariable
  rcases ha : s.assigned with _ | a
  · exact .inl rfl
  · rcases hd : a.declared with _ | _
    · rcases hs : a.declaration? with _ | stmt
      · exact .inl (by simp [hd, hs])
      · exact .inr ⟨a, stmt, rfl, hd, hs, by simp [hd, hs]⟩
    · exact .inl (by simp [hd])

/-- Once its variable has been ensured, the absolute form of an id can be used. -/
theorem ensureVariable_ready (h : s.assigned = some a) :
    ∃ a', s.ensureVariable.assigned = some a' ∧ a'.nested = a.nested ∧ a'.absolute = a.absolute ∧
      (a'.declared = true ∨ a'.varName = none) := by
  unfold ensureVariable
  rcases hd : a.declared with _ | _
  · rcases hv : a.varName with _ | name
    · exact ⟨a, by simp [h, hd, AssignedId.declaration?, hv], rfl, rfl, .inr hv⟩
    · exact ⟨{ a with declared := true }, by simp [h, hd, AssignedId.declaration?, hv], rfl, rfl,
        .inl rfl⟩
  · exact ⟨a, by simp [h, hd], rfl, rfl, .inl hd⟩

/-- A settled id with a usable absolute form needs no further declaration. -/
theorem ensureVariable_of_ready (h : s.assigned = some a)
    (ready : a.declared = true ∨ a.varName = none) : s.ensureVariable = s := by
  rcases ready with hd | hv
  · simp [ensureVariable, h, hd]
  · rcases hd : a.declared with _ | _ <;> simp [ensureVariable, h, hd, AssignedId.declaration?, hv]

@[simp] theorem inWidget_ensureVariable (s : Site) : s.ensureVariable.inWidget = s.inWidget := by
  rcases s.ensureVariable_cases with h | ⟨a, stmt, -, -, -, h⟩
  · rw [h]
  · rw [h]
    rfl

@[simp] theorem isRoot_ensureVariable (s : Site) : s.ensureVariable.isRoot = s.isRoot := by
  rcases s.ensureVariable_cases with h | ⟨a, stmt, -, -, -, h⟩ <;> rw [h]

@[simp] theorem unit_ensureVariable (s : Site) : s.ensureVariable.unit = s.unit := by
  rcases s.ensureVariable_cases with h | ⟨a, stmt, -, -, -, h⟩ <;> rw [h]

/-- The site in which the id is chosen and noted, before an `id` attribute is written. -/
theorem assign_eq (h : s.assigned = none) :
    s.assign repeated =
      let noted := { (s.chooseId repeated).2 with assigned := some (s.chooseId repeated).1 }
      if s.el.custom then noted else noted.ensureVariable.setAttr "id" (s.chooseId repeated).1.absolute := by
  have hc : (s.chooseId repeated).2.el.custom = s.el.custom := by
    rcases s.chooseId_cases repeated with ⟨e, -, h⟩ | ⟨-, h⟩ <;> rw [h] <;> rfl
  unfold assign
  rw [h]
  dsimp only
  rw [hc]

/-- A property of a site is kept by settling the id, if it holds after choosing it, and declaring its variable and
writing it as the attribute `id` keep it. -/
theorem assign_induction {motive : Site → Prop} (start : motive s)
    (given : ∀ e, s.assigned = none → s.el.find? "w-id" = some ⟨"w-id", some e⟩ →
      motive { s.drop "w-id" with assigned := some (.explicit e) })
    (numbered : s.assigned = none → s.el.value? "w-id" = none →
      motive { s.drop "w-id" with unit := s.unit.takeId.2, assigned := some (.numbered s.unit.nextId repeated) })
    (declare : ∀ t, motive t → motive t.ensureVariable)
    (write : ∀ t, motive t → motive (t.setAttr "id" (s.chooseId repeated).1.absolute)) :
    motive (s.assign repeated) := by
  rcases ha : s.assigned with _ | a
  · have hchosen : motive { (s.chooseId repeated).2 with assigned := some (s.chooseId repeated).1 } := by
      rcases s.chooseId_cases repeated with ⟨e, hfound, hchoose⟩ | ⟨hfree, hchoose⟩
      · rw [hchoose]
        exact given e ha hfound
      · rw [hchoose]
        exact numbered ha hfree
    rw [assign_eq ha]
    dsimp only
    split
    · exact hchosen
    · exact write _ (declare _ hchosen)
  · rwa [assign_of_settled ha]

/-- After settling it, the id of an element is settled. -/
theorem assign_settles (s : Site) (repeated : Bool) :
    ∃ a, (s.assign repeated).assigned = some a := by
  rcases h : s.assigned with _ | a
  · rw [assign_eq h]
    dsimp only
    split
    · exact ⟨_, rfl⟩
    · obtain ⟨a, ha, -⟩ := ensureVariable_ready
        (s := { (s.chooseId repeated).2 with assigned := some (s.chooseId repeated).1 }) rfl
      exact ⟨a, ha⟩
  · exact ⟨a, by rw [assign_of_settled h, h]⟩

@[simp] theorem custom_ensureVariable (s : Site) : s.ensureVariable.el.custom = s.el.custom := by
  rcases s.ensureVariable_cases with h | ⟨a, stmt, -, -, -, h⟩
  · rw [h]
  · rw [h]
    rfl

/-- Settling an id leaves the open widgets and the kind of the element alone. -/
theorem assign_frame (s : Site) (repeated : Bool) :
    (s.assign repeated).unit.widgets = s.unit.widgets ∧
      (s.assign repeated).isRoot = s.isRoot ∧ (s.assign repeated).el.custom = s.el.custom := by
  refine assign_induction (motive := fun t => t.unit.widgets = s.unit.widgets ∧ t.isRoot = s.isRoot ∧
    t.el.custom = s.el.custom) ⟨rfl, rfl, rfl⟩ (fun _ _ _ => ⟨rfl, rfl, rfl⟩) (fun _ _ => ⟨rfl, rfl, rfl⟩) ?_ ?_
  · intro t ht
    rwa [unit_ensureVariable, isRoot_ensureVariable, custom_ensureVariable]
  · exact fun _ ht => ht

/-- Settling the id takes a number from the compile unit, or leaves the unit alone. -/
theorem unit_assign (s : Site) (repeated : Bool) :
    (s.assign repeated).unit = s.unit ∨ (s.assign repeated).unit = s.unit.takeId.2 := by
  refine assign_induction (motive := fun t => t.unit = s.unit ∨ t.unit = s.unit.takeId.2) (.inl rfl)
    (fun _ _ _ => .inl rfl) (fun _ _ => .inr rfl) ?_ ?_
  · intro t ht
    rwa [unit_ensureVariable]
  · exact fun _ ht => ht

@[simp] theorem inWidget_assign (s : Site) (repeated : Bool) :
    (s.assign repeated).inWidget = s.inWidget :=
  inWidget_congr (s.assign_frame repeated).1

@[simp] theorem isRoot_assign (s : Site) (repeated : Bool) :
    (s.assign repeated).isRoot = s.isRoot := (s.assign_frame repeated).2.1

@[simp] theorem custom_assign (s : Site) (repeated : Bool) :
    (s.assign repeated).el.custom = s.el.custom := (s.assign_frame repeated).2.2

end Settling

/-- The id of a root is handed over if a widget encloses it, and is a problem otherwise. -/
theorem bindId_cases (s : Site) :
    s.bindId = s.drop "w-id" ∨
      s.inWidget = false ∧ s.bindId = (s.drop "w-id").report (.outsideWidget "w-id") ∨
      s.inWidget = true ∧ ∃ e, s.bindId = (s.drop "w-id").handOver (·.setId e) := by
  rw [bindId, takeAttr_eq]
  rcases s.el.find? "w-id" with _ | a
  · exact .inl rfl
  · dsimp only
    rw [inWidget_drop]
    rcases s.inWidget with _ | _
    · exact .inr (.inl ⟨rfl, rfl⟩)
    · rcases a.value with _ | e
      · exact .inl rfl
      · exact .inr (.inr ⟨rfl, e, rfl⟩)

/-! ## Widget attributes are taken, never made -/

section Attributes

variable {orig base : Element} {late : Bool} {s s' : Site} {p : List Attribute → Prop} {repeated : Bool}

/-- What goes on holding of attributes when any of them is removed and others than widget attributes are set. -/
structure KeptByRules (p : List Attribute → Prop) : Prop where
  remove : ∀ {as : List Attribute} (name : String), p as → p (as.eraseP (·.name == name))
  set : ∀ {as : List Attribute} {name : String} (value : Expr), isWidgetName name = false → p as →
    p (Element.setIn name value as)

/-- Declaring the variable of an id changes no attribute. -/
theorem attributes_ensureVariable (s : Site) : s.ensureVariable.el.attributes = s.el.attributes := by
  rcases s.ensureVariable_cases with h | ⟨a, stmt, -, -, -, h⟩ <;> rw [h]
  rfl

/-- Giving a root its id keeps what the rules keep. -/
theorem KeptByRules.bindId (kept : KeptByRules p) (h : p s.el.attributes) : p s.bindId.el.attributes := by
  rcases s.bindId_cases with hs | ⟨-, hs⟩ | ⟨-, e, hs⟩ <;> rw [hs] <;> exact kept.remove "w-id" h

/-- Settling an id keeps what the rules keep. -/
theorem KeptByRules.assign (kept : KeptByRules p) (h : p s.el.attributes) : p (s.assign repeated).el.attributes := by
  have htaken : p (s.drop "w-id").el.attributes := kept.remove "w-id" h
  refine assign_induction (motive := fun t => p t.el.attributes) h (fun _ _ _ => htaken) (fun _ _ => htaken) ?_ ?_
  · intro t ht
    rwa [attributes_ensureVariable]
  · -- the attribute that is written is `id`, which is no widget attribute
    exact fun _ ht => kept.set _ rfl ht

/-- An edit removes attributes, and sets no widget attribute. -/
theorem Edit.keepsAttributes (h : Edit orig late s s') (kept : KeptByRules p) (start : p s.el.attributes) :
    p s'.el.attributes := by
  cases h with
  | drop name => exact kept.remove name start
  | takeBody => exact kept.remove "w-body" start
  | enter => exact kept.bindId start
  | assign => exact kept.assign start
  | ensureVariable => rwa [attributes_ensureVariable]
  | listen name type handler =>
    unfold Site.listen
    split
    · exact start
    · exact kept.set _ (by simp [isWidgetName, String.toList_append, List.isPrefixOf]) start
  | label => exact kept.set _ rfl start
  | _ => exact start

/-- The edits at an element keep what the rules keep. -/
theorem Edits.keepsAttributes (h : Edits orig late s s') (kept : KeptByRules p) (start : p s.el.attributes) :
    p s'.el.attributes :=
  h.keeps (p := fun t => p t.el.attributes) (fun _ _ step => step.keepsAttributes kept) start

/-- An attribute that is found at an honest site has the value that the element was given. -/
theorem Honest.given {name : String} {a : Attribute} {e : Expr} (h : Honest orig s)
    (found : s.el.find? name = some a) (value : a.value = some e)
    (widgetName : isWidgetName name = true) : Given orig name e := by
  have hname := Element.find?_name found
  exact ⟨a, h a (Element.find?_mem found) (by rwa [hname]), hname, value⟩

/-- A site stays honest when an attribute is dropped. -/
theorem Honest.drop (h : Honest orig s) (name : String) : Honest orig (s.drop name) :=
  fun a ha => h a (Element.mem_of_mem_remove ha)

/-- Widget attributes that were among those of an element go on being so. -/
theorem keptByRules_honest (base : Element) :
    KeptByRules fun as => ∀ a ∈ as, isWidgetName a.name = true → a ∈ base.attributes where
  remove _ h a ha := h a (List.mem_of_mem_eraseP ha)
  set {as name} value other h a ha widgetName := by
    rcases Element.mem_setIn ha with rfl | ha
    · exact nomatch other.symm.trans widgetName
    · exact h a ha widgetName

/-- An edit keeps a site honest. -/
theorem Edit.honest (h : Edit orig late s s') (honest : Honest base s) : Honest base s' :=
  h.keepsAttributes (keptByRules_honest base) honest

/-- The edits at an element keep its site honest. -/
theorem Edits.honest (h : Edits orig late s s') (honest : Honest base s) : Honest base s' :=
  h.keepsAttributes (keptByRules_honest base) honest

end Attributes

/-! ## What no edit changes -/

/-- What is fixed at a site: the fields of the element that no rule writes before the widget is closed, and what the
compile unit knows from outside. -/
structure Background where
  tag : String
  location : Template.Location
  custom : Bool
  after : List Stmt
  widget : Option Template.Binding
  inLoop : Bool
  settings : Template.Settings
  files : Path.Files

/-- What is fixed at the site. -/
def background (s : Site) : Background :=
  ⟨s.el.tag, s.el.location, s.el.custom, s.el.after, s.el.widget, s.inLoop, s.unit.settings,
    s.unit.files⟩

section Background

variable {orig : Element} {late : Bool} {s s' : Site}

/-- Declaring a variable changes neither settings nor files. -/
theorem context_declare (u : CompileUnit) (name code : String) :
    (u.declare name code).settings = u.settings ∧ (u.declare name code).files = u.files := by
  obtain ⟨ds, h⟩ := declare_frame u name code
  rw [h]
  exact ⟨rfl, rfl⟩

/-- Describing a widget changes neither settings nor files. -/
theorem context_widgetType (u : CompileUnit) (path : String) :
    (u.widgetType path).2.settings = u.settings ∧ (u.widgetType path).2.files = u.files := by
  obtain ⟨ds, h⟩ := widgetType_frame u path
  rw [h]
  exact ⟨rfl, rfl⟩

/-- Teaching a widget changes neither settings nor files. -/
theorem context_modifyContaining (u : CompileUnit) (f : OpenWidget → OpenWidget) :
    (u.modifyContaining f).settings = u.settings ∧ (u.modifyContaining f).files = u.files := by
  rw [CompileUnit.modifyContaining]
  split <;> exact ⟨rfl, rfl⟩

/-- The background depends on the element, the loop and the context of the compile unit. -/
theorem background_eq_of_unit (el : s'.el = s.el) (inLoop : s'.inLoop = s.inLoop)
    (context : s'.unit.settings = s.unit.settings ∧ s'.unit.files = s.unit.files) :
    s'.background = s.background := by
  rw [background, background, el, inLoop, context.1, context.2]

theorem background_bindId (s : Site) : s.bindId.background = s.background := by
  rcases s.bindId_cases with hs | ⟨-, hs⟩ | ⟨-, e, hs⟩ <;> rw [hs] <;> rfl

theorem background_ensureVariable (s : Site) : s.ensureVariable.background = s.background := by
  rcases s.ensureVariable_cases with h | ⟨a, stmt, -, -, -, h⟩
  · rw [h]
  · rw [h]
    rfl

theorem background_assign (s : Site) (repeated : Bool) :
    (s.assign repeated).background = s.background := by
  refine assign_induction (motive := fun t => t.background = s.background) rfl (fun _ _ _ => rfl) (fun _ _ => rfl) ?_ ?_
  · intro t ht
    rwa [background_ensureVariable]
  · exact fun _ ht => ht

/-- No edit changes the background. -/
theorem Edit.background (h : Edit orig late s s') : s'.background = s.background := by
  cases h with
  | declareType path => exact background_eq_of_unit rfl rfl (context_widgetType _ path)
  | enter => exact s.background_bindId
  | assign repeated => exact s.background_assign repeated
  | ensureVariable => exact s.background_ensureVariable
  | listen name type handler =>
    unfold Site.listen
    split
    · rfl
    · exact background_eq_of_unit (s := s.setAttr _ _) rfl rfl (context_modifyContaining _ _)
  | announce => exact background_eq_of_unit rfl rfl (context_modifyContaining _ _)
  | slot => exact background_eq_of_unit rfl rfl (context_declare _ _ _)
  | _ => rfl

/-- The edits at an element leave the background as it is. -/
theorem Edits.background (h : Edits orig late s s') : s'.background = s.background :=
  h.keeps (p := fun t => t.background = s.background) (fun _ _ step ih => step.background.trans ih) rfl

section Fixed

variable (h : Edits orig late s s')
include h

theorem Edits.tag : s'.el.tag = s.el.tag := congrArg Background.tag h.background

theorem Edits.location : s'.el.location = s.el.location := congrArg Background.location h.background

theorem Edits.custom : s'.el.custom = s.el.custom := congrArg Background.custom h.background

theorem Edits.after : s'.el.after = s.el.after := congrArg Background.after h.background

theorem Edits.widget : s'.el.widget = s.el.widget := congrArg Background.widget h.background

theorem Edits.settings : s'.unit.settings = s.unit.settings := congrArg Background.settings h.background

theorem Edits.files : s'.unit.files = s.unit.files := congrArg Background.files h.background

end Fixed

/-- Giving a root its id touches neither its settled id nor the compile unit. -/
theorem bindId_frame (s : Site) :
    s.bindId.isRoot = s.isRoot ∧ s.bindId.assigned = s.assigned ∧
      s.bindId.unit.declarations = s.unit.declarations ∧ s.bindId.unit.widgets = s.unit.widgets ∧
      s.bindId.unit.nextId = s.unit.nextId := by
  rcases s.bindId_cases with hs | ⟨-, hs⟩ | ⟨-, e, hs⟩ <;> rw [hs] <;> exact ⟨rfl, rfl, rfl, rfl, rfl⟩

/-- A root stays a root. -/
theorem Edit.isRoot (h : Edit orig late s s') (root : s.isRoot = true) : s'.isRoot = true := by
  cases h with
  | enter => rfl
  | assign repeated => rwa [isRoot_assign]
  | ensureVariable => rwa [isRoot_ensureVariable]
  | listen name type handler => rwa [(s.listen_frame type handler).1]
  | _ => exact root

/-- A root stays a root. -/
theorem Edits.isRoot (h : Edits orig late s s') (root : s.isRoot = true) : s'.isRoot = true :=
  h.keeps (p := fun t => t.isRoot = true) (fun _ _ => Edit.isRoot) root

/-- What every edit keeps that does not make the element a root, a sequence of edits keeps that does not. -/
theorem Edits.keeps_of_isRoot {p : Site → Prop} (h : Edits orig late s s') (kept : s'.isRoot = s.isRoot)
    (step : ∀ t t', Edit orig late t t' → t'.isRoot = t.isRoot → p t → p t') (start : p s) : p s' := by
  have hkeeps := h.keeps
    (p := fun t => t.isRoot = s.isRoot ∧ p t ∨ s.isRoot = false ∧ t.isRoot = true) ?_ (.inl ⟨rfl, start⟩)
  · rcases hkeeps with ⟨-, hp⟩ | ⟨houter, hroot⟩
    · exact hp
    · rw [kept, houter] at hroot
      cases hroot
  · rintro t t' edit (⟨hsame, hp⟩ | ⟨houter, hroot⟩)
    · by_cases hstays : t'.isRoot = t.isRoot
      · exact .inl ⟨hstays.trans hsame, step t t' edit hstays hp⟩
      · -- the element has become a root, and will be one at the end
        rcases ht : t.isRoot with _ | _
        · exact .inr ⟨hsame.symm.trans ht, by simpa [ht] using hstays⟩
        · exact absurd ((edit.isRoot ht).trans ht.symm) hstays
    · exact .inr ⟨houter, edit.isRoot hroot⟩

/-- An element that lies in a widget, or has become the root of one, goes on doing so. -/
theorem Edit.inWidget (h : Edit orig late s s') (inside : s.inWidget = true) : s'.inWidget = true := by
  cases h with
  | declareType path => rwa [inWidget_declareType]
  | enter => rfl
  | assign repeated => rwa [inWidget_assign]
  | ensureVariable => rwa [inWidget_ensureVariable]
  | listen name type handler => rwa [(s.listen_frame type handler).2.1]
  | announce => rwa [inWidget_announce]
  | slot =>
    rw [← inside]
    exact inWidget_congr (widgets_importModule _ _ s.unit)
  | _ => exact inside

/-- What lies in a widget stays in it. -/
theorem Edits.inWidget (h : Edits orig late s s') (inside : s.inWidget = true) :
    s'.inWidget = true :=
  h.keeps (p := fun t => t.inWidget = true) (fun _ _ => Edit.inWidget) inside

/-! ### What only the last rule touches -/

/-- Giving a root its id changes no attribute but that one. -/
theorem find?_bindId_ne {name : String} (noId : name ≠ "w-id") (s : Site) :
    s.bindId.el.find? name = s.el.find? name ∧ s.bindId.appended = s.appended := by
  have hdrop : (s.drop "w-id").el.find? name = s.el.find? name := Element.find?_remove_ne noId
  rcases s.bindId_cases with hs | ⟨-, hs⟩ | ⟨-, e, hs⟩ <;> rw [hs] <;> exact ⟨hdrop, rfl⟩

/-- Declaring the variable of an id changes no attribute. -/
theorem find?_ensureVariable (s : Site) (name : String) :
    s.ensureVariable.el.find? name = s.el.find? name ∧ s.ensureVariable.appended = s.appended := by
  rcases s.ensureVariable_cases with h | ⟨a, stmt, -, -, -, h⟩ <;> rw [h] <;> exact ⟨rfl, rfl⟩

/-- Settling the id touches the two id attributes only. -/
theorem find?_assign_ne (name : String) (noWidgetId : name ≠ "w-id") (noId : name ≠ "id") (s : Site)
    (repeated : Bool) :
    (s.assign repeated).el.find? name = s.el.find? name ∧
      (s.assign repeated).appended = s.appended := by
  have htaken : (s.drop "w-id").el.find? name = s.el.find? name := Element.find?_remove_ne noWidgetId
  refine assign_induction (motive := fun t => t.el.find? name = s.el.find? name ∧ t.appended = s.appended)
    ⟨rfl, rfl⟩ (fun _ _ _ => ⟨htaken, rfl⟩) (fun _ _ => ⟨htaken, rfl⟩) ?_ ?_
  · intro t ht
    obtain ⟨hfind, happended⟩ := t.find?_ensureVariable name
    exact ⟨hfind.trans ht.1, happended.trans ht.2⟩
  · exact fun _ ht => ⟨(Element.find?_set_ne noId).trans ht.1, ht.2⟩

/-- Before the last rule has its turn, its attribute stays and nothing is rendered after the children. -/
theorem Edit.early (h : Edit orig false s s') :
    s'.el.find? "w-body" = s.el.find? "w-body" ∧ s'.appended = s.appended := by
  cases h with
  | drop name widgetName noBody => exact ⟨Element.find?_remove_ne noBody.symm, rfl⟩
  | enter => exact find?_bindId_ne (by simp) s
  | assign repeated => exact find?_assign_ne _ (by simp) (by simp) s repeated
  | ensureVariable => exact find?_ensureVariable s "w-body"
  | listen name type handler =>
    unfold Site.listen
    split
    · exact ⟨rfl, rfl⟩
    · -- a listener is written as an attribute that begins with another letter
      refine ⟨Element.find?_set_ne ?_, rfl⟩
      intro heq
      exact absurd (congrArg (·.toList.head?) heq) (by simp)
  | label => exact ⟨Element.find?_set_ne (by simp), rfl⟩
  | _ => exact ⟨rfl, rfl⟩

/-- Before its rule has its turn `w-body` stays, and nothing is rendered after the children. -/
theorem Edits.early (h : Edits orig false s s') :
    s'.el.find? "w-body" = s.el.find? "w-body" ∧ s'.appended = s.appended :=
  h.keeps (p := fun t => t.el.find? "w-body" = s.el.find? "w-body" ∧ t.appended = s.appended)
    (fun _ _ step ih => ⟨step.early.1.trans ih.1, step.early.2.trans ih.2⟩) ⟨rfl, rfl⟩

end Background

end Site

end WidgetTemplates.Compile
