import WidgetTemplates.Proofs.Compile.OpenWidgets
import WidgetTemplates.Proofs.Compile.SettledId

/-!
# Which elements get a number

An element in a widget gets an id when one of its attributes asks for it: `w-id`, a handler on a custom element, or
`w-body`. Several of them may ask, in either order, and the first one settles the id: it is the value of `w-id` if
there is one, and otherwise the next number. A root has its own id, so there only the handlers of a custom element
ask, for the id of the widget that the element renders.

What has become of the id is one invariant of all edits (`Site.ChoosesId`), and whether one of the rules has settled
it is found rule by rule (`Turn.settled_site`). From the two follows what a turn does to the next number, and from
that, along the turns of a forest, the main result `numbers_of_elements`.
-/

namespace WidgetTemplates.Compile

open Script (Expr)
open Template (Element Node)

namespace AssignedId

/-- Two ids that come out the same where they are used. -/
def SameForms (a b : AssignedId) : Prop := a.nested = b.nested ∧ a.absolute = b.absolute

/-- The id is the one that the template gives. -/
def IsGiven (e : Expr) (a : AssignedId) : Prop :=
  a.nested = e ∧ a.absolute = ((Expr.ident "widget").member "elId").call [e]

/-- The id is the number `n` in its fixed form. -/
def IsFixed (n : Nat) (a : AssignedId) : Prop :=
  a.nested = .str (toString n) ∧ a.absolute = ((Expr.ident "widget").member "elId").call [.str (toString n)]

/-- The id is the number `n` in its repeated form: the template counts it when it runs and keeps it in a variable. -/
def IsCounted (n : Nat) (a : AssignedId) : Prop :=
  a.nested = .str (toString n ++ "[]") ∧ a.absolute = .ident ("__widgetId" ++ toString n)

/-- The id is the number `n`, in one of the two forms. -/
def IsNumber (n : Nat) (a : AssignedId) : Prop := a.IsFixed n ∨ a.IsCounted n

/-- An id with the number `n`, repeated or not, is one of the two kinds of numbered ids. -/
theorem isNumber_numbered (n : Nat) (repeated : Bool) : (numbered n repeated).IsNumber n := by
  rcases repeated with _ | _
  · exact .inl ⟨rfl, rfl⟩
  · exact .inr ⟨rfl, rfl⟩

/-- The ids that can be settled when the template gives the id `given?` and `n` is the next number, with the next
number afterwards. -/
inductive Chosen (given? : Option Expr) (n : Nat) (a : AssignedId) : Nat → Prop
  | explicit {e : Expr} (given : given? = some e) (same : a.IsGiven e) : Chosen given? n a n
  | numbered (free : given? = none) (number : a.IsNumber n) : Chosen given? n a (n + 1)

/-- An id that comes out the same can be settled in the same cases. -/
theorem Chosen.of_sameForms {given? : Option Expr} {n next : Nat} {a b : AssignedId} (h : Chosen given? n a next)
    (same : b.SameForms a) : Chosen given? n b next := by
  cases h with
  | explicit given forms => exact .explicit given ⟨same.1.trans forms.1, same.2.trans forms.2⟩
  | numbered free number =>
    rcases number with forms | forms
    · exact .numbered free (.inl ⟨same.1.trans forms.1, same.2.trans forms.2⟩)
    · exact .numbered free (.inr ⟨same.1.trans forms.1, same.2.trans forms.2⟩)

end AssignedId

/-! ## What becomes of the id of an element -/

/-- Whether a custom element hands over handlers, for which it needs an id. -/
def handsEvents (el : Element) : Bool := el.custom && el.attributes.any fun a => (handler? a).isSome

namespace Site

/-- The id of the element is still to be chosen, `n` being the next number and `given?` the value of `w-id`, or it has
been chosen from these. As long as no id is settled, no number is taken and `w-id` is there. -/
structure ChoosesId (given? : Option Expr) (n : Nat) (s : Site) : Prop where
  unsettled : s.assigned = none → s.unit.nextId = n ∧ s.el.value? "w-id" = given?
  settled : ∀ a, s.assigned = some a → a.Chosen given? n s.unit.nextId

variable {orig : Element} {given? : Option Expr} {n : Nat} {late : Bool} {s s' : Site}

/-- What is chosen does not depend on the other parts of a site. -/
theorem ChoosesId.of_frame (h : ChoosesId given? n s) (assigned : s'.assigned = s.assigned)
    (next : s'.unit.nextId = s.unit.nextId) (explicit : s'.el.find? "w-id" = s.el.find? "w-id") :
    ChoosesId given? n s' := by
  constructor
  · intro hnone
    obtain ⟨hnext, hgiven⟩ := h.unsettled (assigned ▸ hnone)
    exact ⟨next.trans hnext, by rw [Element.value?, explicit]; exact hgiven⟩
  · intro a ha
    rw [next]
    exact h.settled a (assigned ▸ ha)

/-- Declaring the variable of an id does not change the choice. -/
theorem ChoosesId.ensureVariable (h : ChoosesId given? n s) : ChoosesId given? n s.ensureVariable := by
  rcases s.ensureVariable_cases with hs | ⟨a, stmt, ha, -, -, hs⟩
  · rwa [hs]
  · rw [hs]
    refine ⟨nofun, ?_⟩
    intro a' ha'
    obtain rfl := Option.some.inj ha'
    exact (h.settled a ha).of_sameForms ⟨rfl, rfl⟩

/-- Settling the id chooses it. -/
theorem ChoosesId.assign (h : ChoosesId given? n s) (repeated : Bool) : ChoosesId given? n (s.assign repeated) := by
  refine assign_induction h ?_ ?_ (fun _ ht => ht.ensureVariable)
    fun _ ht => ht.of_frame rfl rfl (Element.find?_set_ne (by decide))
  · intro e unsettled hfound
    obtain ⟨rfl, hgiven⟩ := h.unsettled unsettled
    have he : given? = some e := by
      rw [← hgiven, Element.value?, hfound]
      rfl
    refine ⟨fun hnone => absurd hnone (Option.some_ne_none _), fun a ha => ?_⟩
    obtain rfl := Option.some.inj ha
    exact .explicit he ⟨rfl, rfl⟩
  · intro unsettled hfree
    obtain ⟨rfl, hgiven⟩ := h.unsettled unsettled
    refine ⟨fun hnone => absurd hnone (Option.some_ne_none _), fun a ha => ?_⟩
    obtain rfl := Option.some.inj ha
    exact .numbered (hgiven.symm.trans hfree) (AssignedId.isNumber_numbered _ repeated)

/-- In a widget every edit keeps to the choice of the id, as long as the element does not become a root. -/
theorem Edit.choosesId (h : Edit orig late s s') (stays : s'.isRoot = s.isRoot) (inside : s.inWidget = true)
    (id : ChoosesId given? n s) : ChoosesId given? n s' := by
  cases h with
  | report p => exact id.of_frame rfl rfl rfl
  | drop name widgetName noBody noId =>
    -- an element in a widget loses its `w-id` only when the id is settled
    refine id.of_frame rfl rfl (Element.find?_remove_ne ?_)
    rintro rfl
    exact absurd (inside.symm.trans (noId rfl)) (by decide)
  | declareType path => exact id.of_frame rfl (nextId_widgetType s.unit path) rfl
  | enter widgetType names outer => exact absurd (show true = false from stays.trans outer) (by decide)
  | assign repeated => exact id.assign repeated
  | ensureVariable => exact id.ensureVariable
  | handId a => exact id.of_frame rfl rfl rfl
  | listen name type handler =>
    unfold Site.listen
    split
    · exact id.of_frame rfl rfl rfl
    · refine id.of_frame rfl (nextId_modifyContaining s.unit _) (Element.find?_set_ne ?_)
      -- the attribute of a listener begins with another letter than `w-id`
      intro heq
      exact absurd (congrArg (·.toList.head?) heq) (by simp)
  | extend => exact id.of_frame rfl rfl rfl
  | label target => exact id.of_frame rfl rfl (Element.find?_set_ne (by decide))
  | takeBody => exact id.of_frame rfl rfl (Element.find?_remove_ne (by decide))
  | announce e => exact id.of_frame rfl (nextId_modifyContaining s.unit _) rfl
  | slot id' body => exact id.of_frame rfl (nextId_importModule s.unit _ _) rfl

/-- The edits at an element inside a widget choose its id at most once. -/
theorem Edits.choosesId (h : Edits orig late s s') (stays : s'.isRoot = s.isRoot) (inside : s.inWidget = true)
    (id : ChoosesId given? n s) : ChoosesId given? n s' := by
  refine (h.keeps_of_isRoot (p := fun t => t.inWidget = true ∧ ChoosesId given? n t) stays ?_ ⟨inside, id⟩).2
  rintro t t' step hstays ⟨hinside, hid⟩
  exact ⟨step.inWidget hinside, step.choosesId hstays hinside hid⟩

/-! ## Which rules settle the id -/

@[simp] theorem isSome_assigned_assign (s : Site) (repeated : Bool) : (s.assign repeated).assigned.isSome = true := by
  obtain ⟨a, ha⟩ := s.assign_settles repeated
  rw [ha]
  rfl

@[simp] theorem isSome_assigned_ensureVariable (s : Site) :
    s.ensureVariable.assigned.isSome = s.assigned.isSome := by
  rcases s.ensureVariable_cases with h | ⟨a, stmt, ha, -, -, h⟩
  · rw [h]
  · rw [h, ha]
    rfl

/-- Finding the type of a widget takes no number. -/
theorem nextId_widgetTypeOf? {u u' : CompileUnit} {value : Option Expr} {widgetType : Expr}
    (h : u.widgetTypeOf? value = some (widgetType, u')) : u'.nextId = u.nextId := by
  rcases widgetTypeOf?_cases h with ⟨-, rfl⟩ | ⟨path, hpath⟩
  · rfl
  · obtain ⟨-, rfl⟩ := Prod.mk.inj hpath
    exact nextId_widgetType u path

/-- The rule for `w-bind` settles no id. -/
theorem assigned_bind (s : Site) : s.bind.assigned = s.assigned ∧ s.bind.unit.nextId = s.unit.nextId := by
  rcases s.bind_cases with ⟨-, h⟩ | ⟨a, -, ⟨-, p, h⟩ | ⟨widgetType, u, ht, h⟩⟩
  · rw [h]
    exact ⟨rfl, rfl⟩
  · rw [h]
    exact ⟨rfl, rfl⟩
  · obtain ⟨-, hassigned, -, -, hnext⟩ := ({ s.drop "w-bind" with unit := u } : Site).bindId_frame
    rw [h]
    exact ⟨hassigned, hnext.trans (nextId_widgetTypeOf? ht)⟩

/-- An extension settles no id. -/
theorem assigned_handleExtend (s : Site) : s.handleExtend.assigned = s.assigned := by
  rcases s.handleExtend_cases with h | ⟨p, h⟩ | ⟨a, widgetType, u, -, -, h⟩ <;> rw [h] <;> rfl

/-- A label settles no id. -/
theorem assigned_handleFor (s : Site) : s.handleFor.assigned = s.assigned := by
  rcases s.handleFor_cases with h | ⟨p, h⟩ | ⟨a, target, -, -, -, h⟩ <;> rw [h] <;> rfl

variable (inside : s.inWidget = true)
include inside

/-- The rule for `w-id` settles the id if the attribute is there. -/
theorem isSome_assigned_handleId :
    s.handleId.assigned.isSome = (s.assigned.isSome || s.el.has "w-id") := by
  rcases s.handleId_cases with ⟨has, h⟩ | ⟨has, ⟨outside, -⟩ | ⟨-, ⟨-, h⟩ | ⟨-, h⟩⟩⟩
  · rw [h, has, Bool.or_false]
  · cases inside.symm.trans outside
  · rw [h, has, Bool.or_true]
    exact isSome_assigned_assign s s.inLoop
  · rw [h, has, Bool.or_true]
    simp

/-- The rule for events listens to each of them, and then hands over the id of a custom element that has a handler. -/
theorem handleEvents_inside :
    let heard := s.eventNames.foldl handleEvent s
    handsEvents s.el = true ∧ s.handleEvents = heard.nestedId.2.handOver (·.setId heard.nestedId.1) ∨
      handsEvents s.el = false ∧ s.handleEvents = heard := by
  intro heard
  have events := s.forall_mem_eventNames
  -- more events are handed over exactly if there is a handler and the element is a custom one
  have hmore : s.handedOver.events.length < heard.handedOver.events.length ↔ handsEvents s.el = true := by
    rcases hc : s.el.custom with _ | _
    · rw [handedOver, handedOver, foldl_handleEvent_handover events hc, handsEvents, hc]
      simp
    · obtain ⟨-, hevents, -⟩ := foldl_handleEvent_custom (s := s) hc (List.nil_append _).symm (List.forall_mem_nil _)
      rw [← eventNames_eq] at hevents
      rw [hevents, handsEvents, hc, List.length_append]
      have hany : (s.el.attributes.any fun a => (handler? a).isSome) = true ↔
          0 < (s.el.attributes.filterMap handler?).length := by
        rw [List.length_pos_iff, ← hasHandler_iff, HasHandler, List.any_eq_true]
      rw [Bool.true_and, hany]
      omega
  rcases s.handleEvents_cases with ⟨outside, -⟩ | ⟨outside, -⟩ | ⟨-, hlt, h⟩ | ⟨-, hge, h⟩
  · cases inside.symm.trans outside
  · cases inside.symm.trans outside
  · exact .inl ⟨hmore.mp hlt, h⟩
  · exact .inr ⟨by simpa using mt hmore.mpr hge, h⟩

/-- The rule for events settles the id of a custom element that has a handler. -/
theorem isSome_assigned_handleEvents :
    s.handleEvents.assigned.isSome = (s.assigned.isSome || handsEvents s.el) := by
  have events := s.forall_mem_eventNames
  rcases handleEvents_inside inside with ⟨hasks, h⟩ | ⟨hasks, h⟩
  · rw [h, hasks, Bool.or_true]
    exact isSome_assigned_assign _ _
  · rw [h, hasks, Bool.or_false, (foldl_handleEvent_frame events s).2.2.2]

/-- The rule for bodies settles the id of an element that is no root. -/
theorem isSome_assigned_handleBody :
    s.handleBody.assigned.isSome = (s.assigned.isSome || !s.isRoot && s.el.has "w-body") := by
  rcases s.handleBody_cases with ⟨has, h⟩ | ⟨has, ⟨outside, -⟩ | ⟨-, ⟨root, h⟩ | ⟨outer, h⟩⟩⟩
  · rw [h, has, Bool.and_false, Bool.or_false]
  · cases inside.symm.trans outside
  · rw [h, root]
    rcases s.el.value? "w-body" with _ | e <;> simp [fill, slot, rootSlot, drop, takeAttr]
  · obtain ⟨a, content, ha, -⟩ := fill_innerSlot (s.drop "w-body") (s.el.value? "w-body")
    simp [h, has, outer, ha]

end Site

/-! ## The turn of one element -/

namespace Turn

variable (t : Turn)

/-- The id that the template gives the element. The one that it gives a root belongs to the widget. -/
def given? : Option Expr := if t.bound then none else t.el.value? "w-id"

/-- The explicit id of a turn is the value of its `w-id`. -/
theorem value?_of_given? {e : Expr} (given : t.given? = some e) : t.el.value? "w-id" = some e := by
  rw [given?] at given
  split at given
  · cases given
  · exact given

/-- Whether an attribute of the element asks for its id. -/
def asksId : Bool :=
  if t.bound then handsEvents t.el else t.el.has "w-id" || handsEvents t.el || t.el.has "w-body"

/-- The rules after the one for `w-bind` find the element where it is. -/
theorem inWidget_of_mem_stages {s : Site} (h : s ∈ t.stages) : s.inWidget = t.entered.inWidget := by
  rw [Bool.eq_iff_iff, Site.inWidget_iff, Site.inWidget_iff, ne_eq, ne_eq, (t.sameStack_of_mem_stages h).eq_nil]

/-- An element that is not bound has its `w-id` when the rule for it has its turn. -/
theorem find?_id_entered (loose : t.bound = false) : t.entered.el.find? "w-id" = t.el.find? "w-id" := by
  rcases (Site.start t.el t.unit t.inLoop).bind_cases with ⟨-, h⟩ | ⟨a, -, ⟨-, p, h⟩ | ⟨widgetType, u, -, h⟩⟩
  · rw [entered, h]
    rfl
  · rw [entered, h]
    exact Element.find?_remove_ne (by decide)
  · rw [bound, h] at loose
    cases loose

/-- A root has no `w-id` left. -/
theorem find?_id_entered_of_bound (distinct : t.el.names.Nodup) (bound : t.bound = true) :
    t.entered.el.find? "w-id" = none := by
  rcases (Site.start t.el t.unit t.inLoop).bind_cases with ⟨-, h⟩ | ⟨a, -, ⟨-, p, h⟩ | ⟨widgetType, u, -, h⟩⟩
  · rw [Turn.bound, h] at bound
    cases bound
  · rw [Turn.bound, h] at bound
    cases bound
  · let s : Site := { (Site.start t.el t.unit t.inLoop).drop "w-bind" with unit := u }
    have hgone : (s.drop "w-id").el.find? "w-id" = none :=
      Element.find?_remove_self (Element.nodup_names_remove distinct)
    rw [entered, h]
    rcases s.bindId_cases with hs | ⟨-, hs⟩ | ⟨-, e, hs⟩ <;> rw [Site.enter, hs] <;> exact hgone

/-- When the rule for `w-bind` has been applied, the id of the element is still to be chosen. -/
theorem choosesId_entered (distinct : t.el.names.Nodup) :
    Site.ChoosesId t.given? t.unit.nextId t.entered := by
  obtain ⟨hassigned, hnext⟩ := (Site.start t.el t.unit t.inLoop).assigned_bind
  refine ⟨fun _ => ⟨hnext, ?_⟩, fun a ha => nomatch hassigned.symm.trans ha⟩
  rcases hb : t.bound with _ | _
  · rw [given?, hb, if_neg (by decide), Element.value?, t.find?_id_entered hb]
    rfl
  · rw [given?, hb, if_pos rfl, Element.value?, t.find?_id_entered_of_bound distinct hb]
    rfl

/-- In a widget the rules choose the id among what `w-id` holds when the rule for `w-bind` has been applied and the next
number. -/
theorem choosesId_site (inside : t.entered.inWidget = true) :
    Site.ChoosesId (t.entered.el.value? "w-id") t.unit.nextId t.site := by
  obtain ⟨hassigned, hnext⟩ := (Site.start t.el t.unit t.inLoop).assigned_bind
  obtain ⟨hedits, hstays⟩ := t.edits_of_mem_stages t.site_mem_stages
  have hentered : t.entered.assigned = none := hassigned
  exact hedits.choosesId hstays inside
    ⟨fun _ => ⟨hnext, rfl⟩, fun a ha => absurd (ha.symm.trans hentered) (Option.some_ne_none a)⟩

/-- The event attributes are there when the rule for events has its turn. -/
theorem eventAttributes_named : t.named.eventAttributes = eventAttributes t.el.attributes := by
  rw [named]
  split
  · exact Site.eventAttributes_bind _
  · exact t.entered.eventAttributes_handleId.trans (Site.eventAttributes_bind _)

/-- The handlers are there when the rule for events has its turn. -/
theorem handsEvents_named : handsEvents t.named.el = handsEvents t.el := by
  have hcustom : t.named.el.custom = t.el.custom := (t.edits_to_stage (by simp [stages])).custom
  rw [handsEvents, handsEvents, any_handler?, any_handler?, hcustom]
  exact congrArg (fun as => t.el.custom && as.any (·.value.isSome)) t.eventAttributes_named

/-- Before the last rule, the id of an element in a widget is settled exactly if a handler on a custom element asks for
it, or `w-id` on an element that is not bound. -/
theorem settled_beforeBody (inside : t.entered.inWidget = true) :
    (Site.start t.el t.unit t.inLoop).beforeBody.assigned.isSome =
      (!t.bound && t.el.has "w-id" || handsEvents t.el) := by
  have hbefore : (Site.start t.el t.unit t.inLoop).beforeBody = t.named.handleEvents.handleExtend.handleFor := rfl
  have hnamed : t.named.inWidget = true := (t.inWidget_of_mem_stages (by simp [stages])).trans inside
  have hentered : t.entered.assigned = none := (Site.start t.el t.unit t.inLoop).assigned_bind.1
  rw [hbefore, Site.assigned_handleFor, Site.assigned_handleExtend, Site.isSome_assigned_handleEvents hnamed,
    t.handsEvents_named]
  congr 1
  rcases hb : t.bound with _ | _
  · rw [t.named_of_loose hb, Site.isSome_assigned_handleId inside, hentered,
      Element.has_congr (t.find?_id_entered hb)]
    rfl
  · rw [t.named_of_bound hb, hentered]
    rfl

/-- The rules before the last one neither make the element a root nor touch its body. -/
theorem beforeBody_frame :
    (Site.start t.el t.unit t.inLoop).beforeBody.isRoot = t.bound ∧
      (Site.start t.el t.unit t.inLoop).beforeBody.inWidget = t.entered.inWidget ∧
      (Site.start t.el t.unit t.inLoop).beforeBody.el.find? "w-body" = t.el.find? "w-body" := by
  have hearly : Site.Edits t.el false (Site.start t.el t.unit t.inLoop) _ := Site.start_early t.el t.unit t.inLoop
  have hstage : (Site.start t.el t.unit t.inLoop).beforeBody ∈ t.stages := by
    simp only [stages, List.mem_cons]
    exact .inr (.inr (.inr (.inr (.inl rfl))))
  exact ⟨(t.edits_of_mem_stages hstage).2, t.inWidget_of_mem_stages hstage, hearly.early.1⟩

/-- In a widget the id of an element is settled exactly if an attribute asks for it. -/
theorem settled_site (inside : t.entered.inWidget = true) : t.site.assigned.isSome = t.asksId := by
  obtain ⟨hroot, hinside, hfind⟩ := t.beforeBody_frame
  have hbody : (Site.start t.el t.unit t.inLoop).beforeBody.el.has "w-body" = t.el.has "w-body" :=
    Element.has_congr hfind
  rw [site, Site.applyRules_eq, Site.isSome_assigned_handleBody (hinside.trans inside), hroot, hbody,
    t.settled_beforeBody inside, asksId]
  rcases t.bound with _ | _ <;> simp

end Turn

namespace NestedTurn

variable (n : NestedTurn)

/-- Whether an element needs a number: it is bound or lies in a bound element, and an attribute asks for its id
although the template gives none. A root has its own id, and there only the handlers of a custom element ask. -/
def needsNumber : Bool :=
  let el := n.turn.el
  n.root?.isSome &&
    if n.turn.bound then handsEvents el
    else (el.value? "w-id").isNone && (el.has "w-id" || handsEvents el || el.has "w-body")

/-- An element needs a number exactly if it lies in a widget, has no explicit id and has something that asks for an
id. -/
theorem needsNumber_eq : n.needsNumber = (n.root?.isSome && n.turn.given?.isNone && n.turn.asksId) := by
  rw [needsNumber, Turn.given?, Turn.asksId, Bool.and_assoc]
  rcases n.turn.bound with _ | _ <;> rfl

/-- What the turn of an element does to the numbers and to its id. -/
def Allocates : Prop :=
  if n.needsNumber then
    n.turn.site.unit.nextId = n.turn.unit.nextId + 1 ∧
      ∃ a, n.turn.site.assigned = some a ∧ a.IsNumber n.turn.unit.nextId
  else
    n.turn.site.unit.nextId = n.turn.unit.nextId ∧
      ∀ a, n.turn.site.assigned = some a → ∃ e, n.turn.el.value? "w-id" = some e ∧ a.IsGiven e

/-- The rules find an element in a widget exactly if it is bound or lies in a bound element. -/
theorem inWidget_entered (around : Innermost [] (n.above.find? Turn.bound) n.turn.unit.widgets) :
    n.turn.entered.inWidget = n.root?.isSome := by
  have hentered : Innermost [] n.root? n.turn.entered.unit.widgets := around.of_mem_stages n.turn.entered_mem_stages
  rw [Bool.eq_iff_iff, Site.inWidget_iff]
  rcases hr : n.root? with _ | r <;> rw [hr] at hentered
  · rw [SameStack.eq_nil hentered |>.mpr rfl]
    simp
  · obtain ⟨w, hw, -⟩ := hentered
    simp [hw]

/-- An element takes a number exactly if it needs one. -/
theorem allocates (distinct : n.turn.el.names.Nodup)
    (around : Innermost [] (n.above.find? Turn.bound) n.turn.unit.widgets) : n.Allocates := by
  let t := n.turn
  have hentered : t.entered.inWidget = n.root?.isSome := n.inWidget_entered around
  have hedits : Site.Edits t.el true t.entered t.site := (t.edits_of_mem_stages t.site_mem_stages).1
  have hstays : t.site.isRoot = t.entered.isRoot := (t.edits_of_mem_stages t.site_mem_stages).2
  have hbind : t.entered.assigned = none ∧ t.entered.unit.nextId = t.unit.nextId :=
    (Site.start t.el t.unit t.inLoop).assigned_bind
  rcases hr : n.root? with _ | r
  · -- outside of all widgets nothing is settled
    have houtside : t.entered.inWidget = false := by rw [hentered, hr]; rfl
    have hsite : t.site.inWidget = false := (t.inWidget_of_mem_stages t.site_mem_stages).trans houtside
    have hneeds : n.needsNumber = false := by rw [needsNumber_eq, hr]; rfl
    rw [Allocates, hneeds, if_neg (by decide)]
    refine ⟨(hedits.nextId_outside hsite).trans hbind.2, ?_⟩
    intro a ha
    have hinside := hedits.settled_inside hbind.1 (by rw [ha]; rfl)
    exact absurd (hinside.symm.trans hsite) (by decide)
  · have hinside : t.entered.inWidget = true := by rw [hentered, hr]; rfl
    -- the rules have kept to the choice of the id; what is left is to compare it with what the element asks for
    have hchooses := hedits.choosesId hstays hinside (t.choosesId_entered distinct)
    have hsettled := t.settled_site hinside
    have hneeds : n.needsNumber = (t.given?.isNone && t.asksId) := by rw [needsNumber_eq, hr]; rfl
    rw [Allocates, hneeds, ← hsettled]
    rcases ha : t.site.assigned with _ | a
    · obtain ⟨hnext, -⟩ := hchooses.unsettled ha
      rw [Option.isSome_none, Bool.and_false, if_neg (by decide)]
      exact ⟨hnext, nofun⟩
    · have hchosen := hchooses.settled a ha
      rw [Option.isSome_some, Bool.and_true]
      generalize t.site.unit.nextId = next at hchosen ⊢
      cases hchosen with
      | @explicit e given forms =>
        rw [given, if_neg (by simp)]
        refine ⟨rfl, ?_⟩
        intro a' ha'
        obtain rfl := Option.some.inj ha'
        exact ⟨e, t.value?_of_given? given, forms⟩
      | numbered free number =>
        rw [free, if_pos (by simp)]
        exact ⟨rfl, a, rfl, number⟩

end NestedTurn

/-! ## Counting along a forest -/

/-- The turns `ts` count from `lo` to `hi`: each begins with the number at which the one before it has ended. -/
def Counts : Nat → List Turn → Nat → Prop
  | lo, [], hi => lo = hi
  | lo, t :: ts, hi => t.unit.nextId = lo ∧ Counts t.site.unit.nextId ts hi

/-- Numbers that are counted up over two lists of turns are counted up over both in a row. -/
theorem Counts.append {lo mid hi : Nat} {ts more : List Turn} (h : Counts lo ts mid) (h' : Counts mid more hi) :
    Counts lo (ts ++ more) hi := by
  induction ts generalizing lo with
  | nil =>
    obtain rfl : lo = mid := h
    exact h'
  | cons t rest ih => exact ⟨h.1, ih h.2⟩

/-- What comes after the children of an element takes no number. -/
theorem nextId_finished {el : Element} {u u₁ : CompileUnit} {inLoop : Bool} :
    (Site.finished el u inLoop u₁).unit.nextId = u₁.nextId := by
  have hsurround : ∀ s : Site, s.surround.unit.nextId = s.unit.nextId := by
    intro s
    rcases s.surround_cases with ⟨hs, -⟩ | ⟨h, -, -, hs⟩
    · rw [hs]
    · rw [hs]
      exact (Site.nextId_declare _ _ _).trans (Site.nextId_importModule _ _ _)
  have hleave : ∀ s : Site, s.leave.unit.nextId = s.unit.nextId := by
    intro s
    rcases s.leave_cases with ⟨-, m, hs⟩ | ⟨w, rest, -, hs⟩
    · rw [hs]
      rfl
    · rw [hs]
      exact Site.nextId_importModule _ _ _
  rw [Site.finished, Site.close]
  split
  · exact (hleave _).trans (hsurround _)
  · exact hsurround _

/-- The turns of a forest count from the first number before it to the first one after it. -/
theorem counts_turnsAll (inLoop : Bool) (u : CompileUnit) (nodes : List Node) :
    Counts u.nextId (turnsAll inLoop u nodes) (weaveForest inLoop u nodes).2.nextId := by
  induction nodes using Template.forestInduction generalizing inLoop u with
  | nil => rfl
  | element el children rest inside after =>
    let t : Turn := ⟨el, children, u, inLoop⟩
    have hself : Counts u.nextId (t :: turnsAll inLoop t.site.unit children) t.finished.unit.nextId := by
      rw [Turn.finished, nextId_finished]
      exact ⟨rfl, inside inLoop t.site.unit⟩
    exact hself.append (after inLoop t.finished.unit)
  | loop item source body location rest inside after => exact (inside true u).append (after inLoop _)
  | _ =>
    rename_i after
    exact after inLoop u

/-- The numbers that the rules for an element take. -/
def Turn.taken (t : Turn) : List Nat := List.range' t.unit.nextId (t.site.unit.nextId - t.unit.nextId)

namespace NestedTurn

variable {n : NestedTurn}

/-- A node that needs a number takes the next one. -/
theorem Allocates.taken_of_needs (h : n.Allocates) (needs : n.needsNumber = true) :
    n.turn.site.unit.nextId = n.turn.unit.nextId + 1 ∧ n.turn.taken = [n.turn.unit.nextId] := by
  rw [Allocates, if_pos needs] at h
  refine ⟨h.1, ?_⟩
  rw [Turn.taken, h.1, Nat.add_sub_cancel_left]
  rfl

/-- A node that needs no number takes none. -/
theorem Allocates.taken_of_not_needs (h : n.Allocates) (needless : n.needsNumber = false) :
    n.turn.site.unit.nextId = n.turn.unit.nextId ∧ n.turn.taken = [] := by
  rw [Allocates, if_neg (by simp [needless])] at h
  refine ⟨h.1, ?_⟩
  rw [Turn.taken, h.1, Nat.sub_self]
  rfl

end NestedTurn

/-- If the turns of a list count and each takes a number exactly if it needs one, those that need one begin with the
numbers in order, and these are the numbers taken. -/
theorem Counts.allocated {lo hi : Nat} {ns : List NestedTurn} (h : Counts lo (ns.map NestedTurn.turn) hi)
    (allocates : ∀ n ∈ ns, n.Allocates) {needing : List NestedTurn}
    (filter : ns.filter NestedTurn.needsNumber = needing) :
    hi = lo + needing.length ∧ needing.map (·.turn.unit.nextId) = List.range' lo needing.length ∧
      ns.flatMap (·.turn.taken) = List.range' lo needing.length := by
  subst filter
  induction ns generalizing lo with
  | nil => exact ⟨Eq.symm h, rfl, rfl⟩
  | cons n rest ih =>
    obtain ⟨hlo, hrest⟩ := h
    have hn := allocates n List.mem_cons_self
    obtain ⟨hhi, hbegin, htaken⟩ := ih hrest (fun m hm => allocates m (List.mem_cons_of_mem _ hm))
    rcases hneeds : n.needsNumber with _ | _
    · obtain ⟨hnext, hnone⟩ := hn.taken_of_not_needs hneeds
      rw [hnext, hlo] at hhi hbegin htaken
      rw [List.filter_cons_of_neg (by simp [hneeds]), List.flatMap_cons, hnone]
      exact ⟨hhi, hbegin, htaken⟩
    · obtain ⟨hnext, hone⟩ := hn.taken_of_needs hneeds
      rw [hnext, hlo] at hhi hbegin htaken
      rw [List.filter_cons_of_pos hneeds, List.flatMap_cons, hone, List.length_cons, List.range'_succ, hlo]
      refine ⟨by omega, ?_, ?_⟩
      · rw [List.map_cons, hbegin, hlo]
      · rw [htaken]
        rfl

/-- **Numbers are dense, in order, and only for the elements that need one.** When a template is woven in which no
element lists an attribute twice, the numbers that are taken are `0`, `1` and so on without a gap, and the first one
that is not taken counts them. They go to the elements that need one, in document order, one to each, as the settled
id of the element. Any other element takes none, and an id of it is one that the template gives. -/
theorem numbers_of_elements (settings : Template.Settings) (files : Path.Files) (nodes : List Node)
    (distinct : ∀ el ∈ elementsAll nodes, el.names.Nodup) :
    let u : CompileUnit := { settings, files }
    let all := nestedTurnsAll [] false u nodes
    let needing := all.filter NestedTurn.needsNumber
    all.map (·.turn.el) = elementsAll nodes ∧
      (weave u nodes).2.nextId = needing.length ∧
      all.flatMap (·.turn.taken) = List.range needing.length ∧
      (∀ (k : Nat) (n : NestedTurn), needing[k]? = some n →
        n.turn.taken = [k] ∧ ∃ a, n.turn.site.assigned = some a ∧ a.IsNumber k) ∧
      ∀ n ∈ all, n.needsNumber = false →
        n.turn.taken = [] ∧ ∀ a : AssignedId, n.turn.site.assigned = some a →
          ∃ e, n.turn.el.value? "w-id" = some e ∧ a.IsGiven e := by
  intro u all needing
  have hall : all.map (·.turn.el) = elementsAll nodes := by
    rw [← map_el_turnsAll false u, ← map_turn_nestedTurnsAll [], List.map_map]
    rfl
  have hallocates : ∀ n ∈ all, n.Allocates := by
    intro n hn
    have start : Innermost [] (([] : List Turn).find? Turn.bound) u.widgets := SameStack.refl []
    refine n.allocates (distinct _ ?_) (innermost_of_mem_nestedTurnsAll start hn)
    rw [← hall]
    exact List.mem_map.mpr ⟨n, hn, rfl⟩
  have hcounts : Counts 0 (all.map NestedTurn.turn) (weaveForest false u nodes).2.nextId := by
    rw [map_turn_nestedTurnsAll]
    exact counts_turnsAll false u nodes
  obtain ⟨hnext, hbegin, htaken⟩ := hcounts.allocated hallocates rfl
  rw [Nat.zero_add] at hnext
  refine ⟨hall, ?_, htaken.trans List.range_eq_range'.symm, ?_, ?_⟩
  · rw [← hnext, weave_eq rfl]
  · intro k n hk
    obtain ⟨hmem, hneeds⟩ := List.mem_filter.mp (List.mem_of_getElem? hk)
    have hn := hallocates n hmem
    -- the element that is number `k` among those that need a number begins with it
    have hnumber : n.turn.unit.nextId = k := by
      have hget : (needing.map (·.turn.unit.nextId))[k]? = some n.turn.unit.nextId := by
        rw [List.getElem?_map, hk]
        rfl
      rw [hbegin] at hget
      obtain ⟨hlt, hvalue⟩ := List.getElem?_eq_some_iff.mp hget
      rw [List.getElem_range'] at hvalue
      omega
    obtain ⟨-, hone⟩ := hn.taken_of_needs hneeds
    rw [NestedTurn.Allocates, if_pos hneeds, hnumber] at hn
    rw [hnumber] at hone
    exact ⟨hone, hn.2⟩
  · intro n hn hneedless
    have hnone := hallocates n hn
    refine ⟨(hnone.taken_of_not_needs hneedless).2, ?_⟩
    rw [NestedTurn.Allocates, if_neg (by simp [hneedless])] at hnone
    exact hnone.2

/-- In a list inside a root, the item and the custom element with a handler get the two numbers, although a body is
marked on an element with an id of its own in between. -/
theorem numbers_of_bound_list :
    let nodes : List Node :=
      [.element { tag := "ul", attributes := [⟨"w-bind", some (.str "./w")⟩] }
        [.loop "x" (.ident "xs") [.element { tag := "li", attributes := [⟨"w-id", none⟩] } []] .start,
          .element { tag := "p", attributes := [⟨"w-id", some (.str "own")⟩, ⟨"w-body", none⟩] } [],
          .element { tag := "app-x", custom := true, attributes := [⟨"w-onclick", some (.str "go")⟩] } []]]
    (∀ el ∈ elementsAll nodes, el.names.Nodup) ∧ (weave { settings := {}, files := {} } nodes).2.nextId = 2 ∧
      (nestedTurnsAll [] false { settings := {}, files := {} } nodes).flatMap (·.turn.taken) = [0, 1] := by
  intro nodes
  have distinct : ∀ el ∈ elementsAll nodes, el.names.Nodup := by decide
  obtain ⟨-, hnext, htaken, -⟩ := numbers_of_elements {} {} nodes distinct
  have hneeding : ((nestedTurnsAll [] false { settings := {}, files := {} } nodes).filter
      NestedTurn.needsNumber).length = 2 := rfl
  rw [hneeding] at hnext htaken
  exact ⟨distinct, hnext, htaken⟩

end WidgetTemplates.Compile
