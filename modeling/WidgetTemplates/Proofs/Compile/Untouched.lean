import WidgetTemplates.Proofs.Compile.HandoverPairs
import WidgetTemplates.Proofs.Compile.Outside

/-!
# What weaving leaves alone

Weaving changes a template in a few places. `KeepsForest` says what stays: the nodes are the same nodes in the same
order, except that a call may stand behind the children of an element; and an element is the same element
(`KeepsElement`), except for attributes of certain names (`isReserved`), the declaration of a variable and a deposit
before it, and a cleanup after it. An element without an attribute that makes a rule act (`isTrigger`) is not changed at
all. `weave_keeps` says that weaving does no more to any template.

The statements before an element need an invariant: while the rules run, nothing has been put there but the variable of
the settled id, once it is declared (`Site.Preceded`).
-/

namespace WidgetTemplates.Compile

open Script (Expr Stmt)
open Template (Attribute Element Node)

/-! ## What stays -/

/-- The names of the attributes that make a rule act, those of events apart. -/
def triggerNames : List String := ["w-bind", "w-id", "w-extend", "w-for", "w-body"]

/-- Whether an attribute of this name makes a rule act. -/
def isTrigger (name : String) : Bool := triggerNames.contains name || (Site.eventType? name).isSome

/-- The names of the attributes that are read along with `w-extend`, or written, those of listeners apart. -/
def furtherNames : List String := ["w-config", "w-state", "id", "for", "data-widget", "data-w-body"]

/-- Whether attributes of this name may be taken or written. -/
def isReserved (name : String) : Bool :=
  isTrigger name || furtherNames.contains name || "data-w-on".toList.isPrefixOf name.toList

/-- The declaration of the variable that holds the id of a number. -/
def idVariable (n : Nat) : Stmt :=
  .var ("__widgetId" ++ toString n) (elementIdCall (some (.str (toString n ++ "[]"))))

/-- What stays of an element that becomes another one.
* It is of the same kind and stands at the same place (`kind`), and all other attributes keep their values and their
order (`attributes`).
* The statements around it stay. Behind those before it at most the variable of an id and a deposit are put, and before
those after it the cleanup of that deposit (`statements`).
* Only `w-bind` wraps it in a widget (`widget`), and nothing happens to it unless an attribute makes a rule act
(`idle`). -/
structure KeepsElement (el el' : Element) : Prop where
  kind : el'.tag = el.tag ∧ el'.custom = el.custom ∧ el'.location = el.location
  attributes : el'.select (!isReserved ·) = el.select (!isReserved ·)
  statements : ∃ (number : Option Nat) (handed : Option Handover),
    el'.before = el.before ++ (number.map idVariable).toList ++ (handed.map Site.depositStmt).toList ∧
      el'.after = (handed.map fun _ => Site.clearStmt).toList ++ el.after
  widget : el.has "w-bind" = false → el'.widget = el.widget
  idle : (∀ a ∈ el.attributes, isTrigger a.name = false) → el' = el

/-- What stays of a forest that becomes another one: each element keeps what `KeepsElement` says, and behind its
children a body may be rendered; loops keep their items and sources, and all other nodes stay as they are. -/
inductive KeepsForest : List Node → List Node → Prop
  | nil : KeepsForest [] []
  | element {el el' : Element} {children children' rest rest' : List Node} (slot : Option (Expr × Expr))
    (own : KeepsElement el el') (idle : (∀ a ∈ el.attributes, isTrigger a.name = false) → slot = none)
    (inside : KeepsForest children children') (after : KeepsForest rest rest') :
    KeepsForest (.element el children :: rest)
      (.element el' (children' ++ (slot.map fun p => .code (Site.slotCall p.1 p.2)).toList) :: rest')
  | loop {item : String} {source : Expr} {location : Template.Location} {body body' rest rest' : List Node}
    (inside : KeepsForest body body') (after : KeepsForest rest rest') :
    KeepsForest (.loop item source body location :: rest) (.loop item source body' location :: rest')
  | leaf {node : Node} {rest rest' : List Node} (leaf : IsLeaf node) (after : KeepsForest rest rest') :
    KeepsForest (node :: rest) (node :: rest')

namespace Site

variable {el : Element} {s s' : Site} {late : Bool} {orig : Element}

/-! ## The statements before an element -/

/-- What stands before the element while the rules run: what has been there, and the variable of the settled id as soon
as it is declared. An id that needs a variable is that of a number. -/
structure Preceded (el : Element) (s : Site) : Prop where
  unsettled : s.assigned = none → s.el.before = el.before
  settled : ∀ a, s.assigned = some a → s.el.before = el.before ++ a.preamble ∧
    ∃ number : Option Nat, a.declaration? = number.map idVariable

/-- A change elsewhere. -/
theorem Preceded.of_frame (h : Preceded el s) (assigned : s'.assigned = s.assigned)
    (before : s'.el.before = s.el.before) : Preceded el s' := by
  constructor
  · intro hnone
    exact before.trans (h.unsettled (assigned ▸ hnone))
  · intro a ha
    rw [before]
    exact h.settled a (assigned ▸ ha)

/-- Declaring the variable of the settled id keeps what stands before the element. -/
theorem Preceded.ensureVariable (h : Preceded el s) : Preceded el s.ensureVariable := by
  rcases s.ensureVariable_cases with hs | ⟨a, stmt, ha, hdeclared, hstmt, hs⟩
  · rwa [hs]
  · obtain ⟨hbefore, hnumber⟩ := h.settled a ha
    rw [hs]
    refine ⟨nofun, ?_⟩
    intro a' ha'
    obtain rfl := Option.some.inj ha'
    refine ⟨?_, hnumber⟩
    -- the variable has not been there, and is now
    rw [AssignedId.preamble, hdeclared, if_neg Bool.false_ne_true, List.append_nil] at hbefore
    change s.el.before ++ [stmt] = el.before ++ a.declaration?.toList
    rw [hbefore, hstmt, Option.toList_some]

/-- Settling an id keeps what stands before the element. -/
theorem Preceded.assign (h : Preceded el s) (repeated : Bool) : Preceded el (s.assign repeated) := by
  refine assign_induction h ?_ ?_ (fun _ ht => ht.ensureVariable) fun _ ht => ht.of_frame rfl rfl
  · intro e unsettled _
    refine ⟨nofun, fun a ha => ?_⟩
    obtain rfl := Option.some.inj ha
    exact ⟨(h.unsettled unsettled).trans (List.append_nil _).symm, none, rfl⟩
  · intro unsettled _
    have hbefore := (h.unsettled unsettled).trans (List.append_nil _).symm
    refine ⟨nofun, fun a ha => ?_⟩
    obtain rfl := Option.some.inj ha
    -- choosing the number declares nothing yet
    cases repeated with
    | false => exact ⟨hbefore, none, rfl⟩
    | true => exact ⟨hbefore, some s.unit.nextId, rfl⟩

/-- An edit puts no statement before the element but the variable of its id. -/
theorem Edit.preceded (edit : Edit orig late s s') (h : Preceded el s) : Preceded el s' := by
  cases edit with
  | enter =>
    rcases s.bindId_cases with hs | ⟨-, hs⟩ | ⟨-, e, hs⟩ <;> rw [hs] <;> exact h.of_frame rfl rfl
  | assign repeated => exact h.assign repeated
  | ensureVariable => exact h.ensureVariable
  | listen name type handler =>
    unfold Site.listen
    split <;> exact h.of_frame rfl rfl
  | _ => exact h.of_frame rfl rfl

/-- The edits at an element keep what stands before it. -/
theorem Edits.preceded (edits : Edits orig late s s') (h : Preceded el s) : Preceded el s' :=
  edits.keeps (p := Preceded el) (fun _ _ => Edit.preceded) h

/-- The rules put at most the variable of an id before the element. -/
theorem before_applyRules (el : Element) (u : CompileUnit) (inLoop : Bool) :
    ∃ number : Option Nat, (start el u inLoop).applyRules.el.before = el.before ++ (number.map idVariable).toList := by
  have h : Preceded el (start el u inLoop).applyRules := (start_edits el u inLoop).preceded ⟨fun _ => rfl, nofun⟩
  rcases ha : (start el u inLoop).applyRules.assigned with _ | a
  · exact ⟨none, (h.unsettled ha).trans (List.append_nil _).symm⟩
  · obtain ⟨hbefore, number, hnumber⟩ := h.settled a ha
    rw [hbefore, AssignedId.preamble, hnumber]
    split
    · exact ⟨number, rfl⟩
    · exact ⟨none, rfl⟩

/-! ## The statements behind the children -/

/-- The slot of a root puts nothing behind its children. -/
theorem appended_rootSlot (s : Site) (body : Option Expr) : (s.rootSlot body).2.2.appended = s.appended := by
  cases body <;> rfl

/-- The rule for bodies renders one body if the element has `w-body` and lies in a widget, and none otherwise. -/
theorem appended_handleBody (s : Site) : ∃ slot : Option (Expr × Expr),
    s.handleBody.appended = s.appended ++ (slot.map fun p => slotCall p.1 p.2).toList ∧
      slot.isSome = (s.el.has "w-body" && s.inWidget) := by
  rcases s.handleBody_cases with ⟨has, h⟩ | ⟨has, ⟨outside, h⟩ | ⟨inside, ⟨-, h⟩ | ⟨-, h⟩⟩⟩
  · rw [h, has]
    exact ⟨none, (List.append_nil _).symm, rfl⟩
  · rw [h, has, outside]
    exact ⟨none, (List.append_nil _).symm, rfl⟩
  · let prepared := (s.drop "w-body").rootSlot (s.el.value? "w-body")
    have hprepared : prepared.2.2.appended = s.appended := appended_rootSlot _ _
    rw [h, has, inside]
    exact ⟨some (prepared.1, prepared.2.1), congrArg (· ++ [slotCall prepared.1 prepared.2.1]) hprepared, rfl⟩
  · obtain ⟨a, content, -, happended⟩ := fill_innerSlot (s.drop "w-body") (s.el.value? "w-body")
    rw [h, has, inside]
    exact ⟨some (a.absolute, content), happended, rfl⟩

/-! ## The attributes -/

/-- The names that trigger a rule, and those that come with them, are reserved. -/
theorem isReserved_of_mem {name : String} (h : name ∈ triggerNames ++ furtherNames) : isReserved name = true := by
  rw [isReserved, isTrigger, List.contains_eq_mem, List.contains_eq_mem]
  rcases List.mem_append.mp h with h | h <;> simp [h]

/-- The names of event attributes are reserved. -/
theorem isReserved_of_event {name : String} (h : (eventType? name).isSome = true) : isReserved name = true := by
  rw [isReserved, isTrigger, h, Bool.or_true, Bool.true_or, Bool.true_or]

/-- The names of listeners are reserved. -/
theorem isReserved_listener (type : String) : isReserved ("data-w-on" ++ type) = true := by
  have hprefix : "data-w-on".toList.isPrefixOf ("data-w-on" ++ type).toList = true := by
    rw [String.toList_append]
    exact List.isPrefixOf_iff_prefix.mpr (List.prefix_append _ _)
  rw [isReserved, hprefix, Bool.or_true]

/-- The rules touch reserved attributes only. -/
theorem select_applyRules {q : String → Bool} (apart : ∀ name, isReserved name = true → q name = false) (s : Site) :
    s.applyRules.el.select q = s.el.select q := by
  have own : ∀ name ∈ triggerNames ++ furtherNames, q name = false := fun name h => apart name (isReserved_of_mem h)
  simp only [triggerNames, furtherNames, List.cons_append, List.nil_append, List.forall_mem_cons] at own
  obtain ⟨bind, id, extend, label, body, config, state, writtenId, target, -⟩ := own
  have events : ∀ name, (eventType? name).isSome = true → q name = false := fun name h =>
    apart name (isReserved_of_event h)
  have listeners : ∀ type, q ("data-w-on" ++ type) = false := fun type => apart _ (isReserved_listener type)
  let named := if s.bind.isRoot then s.bind else s.bind.handleId
  have hnamed : named.el.select q = s.el.select q := by
    have hbind : s.bind.el.select q = s.el.select q := select_bind id bind
    simp only [named]
    split
    · exact hbind
    · exact (select_handleId id writtenId).trans hbind
  calc s.applyRules.el.select q
      = named.handleEvents.handleExtend.handleFor.el.select q := select_handleBody body id writtenId
    _ = named.handleEvents.handleExtend.el.select q := select_handleFor label target
    _ = named.handleEvents.el.select q := select_handleExtend extend config state
    _ = named.el.select q := select_handleEvents events listeners id writtenId
    _ = s.el.select q := hnamed

/-! ## Closing an element -/

/-- Leaving an element changes neither its kind nor its place. -/
theorem kind_leave (s : Site) :
    s.leave.el.tag = s.el.tag ∧ s.leave.el.custom = s.el.custom ∧ s.leave.el.location = s.el.location := by
  rcases s.leave_cases with ⟨-, m, hs⟩ | ⟨w, rest, -, hs⟩ <;> rw [hs]
  · exact ⟨rfl, rfl, rfl⟩
  · rw [finishRoot_eq]
    exact ⟨rfl, rfl, rfl⟩

/-- Closing an element makes no other element of it. -/
theorem kind_close (s : Site) (u : CompileUnit) :
    let closed := ({ s with unit := u } : Site).close
    closed.el.tag = s.el.tag ∧ closed.el.custom = s.el.custom ∧ closed.el.location = s.el.location := by
  let s' : Site := { s with unit := u }
  obtain ⟨htag, hcustom, hlocation⟩ := s'.kind_surround
  rw [close]
  split
  · obtain ⟨htag', hcustom', hlocation'⟩ := s'.surround.kind_leave
    exact ⟨htag'.trans htag, hcustom'.trans hcustom, hlocation'.trans hlocation⟩
  · exact ⟨htag, hcustom, hlocation⟩

/-- Closing the widget of a root touches reserved attributes only. -/
theorem select_finishRoot {q : String → Bool} (apart : ∀ name, isReserved name = true → q name = false) {w : OpenWidget}
    (only : w.pending = [] ∨ ∃ e, w.pending = [("body", e)]) (el : Element) :
    (finishRoot el w).select q = el.select q := by
  have own : ∀ name ∈ triggerNames ++ furtherNames, q name = false := fun name h => apart name (isReserved_of_mem h)
  have hevents : q "data-w-on" = false := apart _ (isReserved_listener "")
  have hbody : q (pendingName "body") = false := own _ (by simp [pendingName, furtherNames])
  let named := (el.set "id" (Expr.widget.member "id")).set "data-widget" (w.widgetType.member "name")
  have hnamed : named.select q = el.select q :=
    (Element.select_set (own _ (by simp [furtherNames])) _).trans
      (Element.select_set (own _ (by simp [furtherNames])) _)
  rw [finishRoot]
  rcases only with hw | ⟨e, hw⟩ <;> rw [hw] <;> rcases w.domEvents with _ | _
  · exact hnamed
  · exact (Element.select_set hevents _).trans hnamed
  · exact (Element.select_set hbody e).trans hnamed
  · exact (Element.select_set hbody e).trans ((Element.select_set hevents _).trans hnamed)

/-! ## Elements that nothing happens to -/

/-- An element without an attribute that makes a rule act has no attribute of such a name. -/
theorem find?_of_idle {el : Element} (idle : ∀ a ∈ el.attributes, isTrigger a.name = false) {name : String}
    (trigger : isTrigger name = true) : el.find? name = none := by
  rw [Element.find?, List.find?_eq_none]
  intro a ha hname
  exact absurd ((eq_of_beq hname ▸ trigger).symm.trans (idle a ha)) (by decide)

/-- Without an attribute that makes a rule act, the rules do nothing. -/
theorem applyRules_idle {el : Element} (idle : ∀ a ∈ el.attributes, isTrigger a.name = false) (u : CompileUnit)
    (inLoop : Bool) : (start el u inLoop).applyRules = start el u inLoop := by
  let s := start el u inLoop
  have absent : ∀ name, isTrigger name = true → s.el.find? name = none := fun name trigger => find?_of_idle idle trigger
  have hid : s.handleId = s := by
    rcases s.handleId_cases with ⟨-, h⟩ | ⟨has, -⟩
    · exact h
    · cases has.symm.trans (Element.find?_eq_none.mp (absent "w-id" rfl))
  have hevents : s.handleEvents = s := by
    have hnames : s.eventNames = [] := by
      rw [eventNames, List.filter_eq_nil_iff]
      intro name hname event
      obtain ⟨a, ha, rfl⟩ := List.mem_map.mp hname
      have htrigger : isTrigger a.name = true := by rw [isTrigger, event, Bool.or_true]
      exact absurd (htrigger.symm.trans (idle a ha)) (by decide)
    rw [handleEvents, hnames]
  have hlabel : s.handleFor = s := by
    rw [handleFor, takeAttr_eq, absent "w-for" rfl]
    exact drop_of_find?_none (absent "w-for" rfl)
  have hbody : s.handleBody = s := by
    rcases s.handleBody_cases with ⟨-, h⟩ | ⟨has, -⟩
    · exact h
    · cases has.symm.trans (Element.find?_eq_none.mp (absent "w-body" rfl))
  change s.applyRules = s
  rw [applyRules_eq, beforeBody, bind_of_find?_none (absent "w-bind" rfl), hid, ite_self, hevents,
    handleExtend_of_find?_none (absent "w-extend" rfl), hlabel, hbody]

end Site

namespace Turn

variable (t : Turn)

/-- An element that nothing happens to is finished as it is. -/
theorem finished_idle (idle : ∀ a ∈ t.el.attributes, isTrigger a.name = false) :
    t.woven = t.el ∧ t.finished.appended = [] := by
  have hfinished : t.finished = { Site.start t.el t.unit t.inLoop with unit := t.inside } := by
    rw [finished, Site.finished, Site.applyRules_idle idle]
    rfl
  rw [woven, hfinished]
  exact ⟨rfl, rfl⟩

/-- The attributes of a finished element that no rule may touch. -/
theorem select_woven {q : String → Bool} (apart : ∀ name, isReserved name = true → q name = false) :
    t.woven.select q = t.el.select q := by
  have hsite : t.site.el.select q = t.el.select q := Site.select_applyRules apart _
  rcases hb : t.bound with _ | _
  · rw [Element.select, (t.attributes_woven_of_loose hb).1]
    exact hsite
  · obtain ⟨w, el, hwoven, hattributes, -, -, hpending⟩ := t.finished_taught hb
    rw [hwoven, Site.select_finishRoot apart (pending_taught hpending), Element.select, hattributes]
    exact hsite

/-- **What stays of one element.** -/
theorem keepsElement_woven : KeepsElement t.el t.woven := by
  constructor
  · obtain ⟨htag, hcustom, hlocation⟩ := t.site.kind_close t.inside
    rw [woven, finished_eq_close, htag, hcustom, hlocation]
    exact ⟨t.site_edits.tag, t.site_edits.custom, t.site_edits.location⟩
  · exact t.select_woven fun name reserved => by rw [reserved, Bool.not_true]
  · obtain ⟨number, hnumber⟩ := Site.before_applyRules t.el t.unit t.inLoop
    obtain ⟨hbefore, hafter, -⟩ := t.site.statements_close t.inside
    refine ⟨number, t.site.handed?, ?_, ?_⟩
    · rw [woven, finished_eq_close, hbefore, ← hnumber]
      rfl
    · rw [woven, finished_eq_close, hafter, t.site_edits.after]
      rfl
  · intro hbind
    have loose : t.bound = false := by rw [t.bound_eq, CompileUnit.opens, Element.find?_eq_none.mpr hbind]
    exact (t.finished_of_loose loose).2
  · exact fun idle => (t.finished_idle idle).1

/-- A body is rendered behind the children of an element exactly if the element has `w-body` and lies in a widget. -/
theorem appended_finished : ∃ slot : Option (Expr × Expr),
    t.finished.appended = (slot.map fun p => Site.slotCall p.1 p.2).toList ∧
      slot.isSome = (t.el.has "w-body" && t.entered.inWidget) := by
  have early : Site.Edits t.el false _ _ := Site.start_early t.el t.unit t.inLoop
  obtain ⟨-, hinside, hfind⟩ := t.beforeBody_frame
  obtain ⟨slot, hslot, hsome⟩ := (Site.start t.el t.unit t.inLoop).beforeBody.appended_handleBody
  obtain ⟨-, -, happended⟩ := t.site.statements_close t.inside
  rw [early.early.2] at hslot
  rw [hinside, Element.has_congr hfind] at hsome
  exact ⟨slot, happended.trans hslot, hsome⟩

end Turn

/-- Weaving keeps a forest, below a loop or not and whatever is open. -/
theorem weaveForest_keeps (inLoop : Bool) (u : CompileUnit) (nodes : List Node) :
    KeepsForest nodes (weaveForest inLoop u nodes).1 := by
  induction nodes using weavingInduction generalizing inLoop u with
  | nil => exact .nil
  | element el children rest inside after =>
    let t : Turn := ⟨el, children, u, inLoop⟩
    obtain ⟨slot, happended, hsome⟩ := t.appended_finished
    -- an element whose attributes make no rule act fills no slot
    have hidle : (∀ a ∈ el.attributes, isTrigger a.name = false) → slot = none := by
      intro idle
      rw [Element.find?_eq_none.mp (Site.find?_of_idle idle rfl), Bool.false_and] at hsome
      exact Option.isNone_iff_eq_none.mp (Option.isSome_eq_false_iff.mp hsome)
    have hcode : t.finished.appended.map Node.code =
        (slot.map fun p => Node.code (Site.slotCall p.1 p.2)).toList := by
      rw [happended]
      cases slot <;> rfl
    rw [weaveForest_element]
    change KeepsForest _ (.element t.woven (_ ++ t.finished.appended.map Node.code) :: _)
    rw [hcode]
    exact .element slot t.keepsElement_woven hidle (inside inLoop t.site.unit) (after inLoop t.finished.unit)
  | loop item source body location rest inside after =>
    rw [weaveForest_loop]
    exact .loop (inside true u) (after inLoop _)
  | leaf node rest leaf after =>
    rw [weaveForest_leaf inLoop u rest leaf]
    exact .leaf leaf (after inLoop u)

/-- **Weaving touches nothing else.** Whatever the template and the state of the compile unit, the woven template
consists of the same nodes in the same order. Behind the children of an element at most one call is added, and of an
element at most attributes of reserved names, a variable and a deposit before it and a cleanup after it change, and
these only if one of its attributes makes a rule act. -/
theorem weave_keeps (u : CompileUnit) (nodes : List Node) : KeepsForest nodes (weave u nodes).1 :=
  weaveForest_keeps false u nodes

end WidgetTemplates.Compile
