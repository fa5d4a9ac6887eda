import WidgetTemplates.Proofs.Compile.Events
import WidgetTemplates.Proofs.Compile.Roots
import WidgetTemplates.Proofs.Compile.Selected

/-!
# What one element leaves with the open widget

The rules for an element tell the innermost open widget two things: that its root is to listen to DOM events, and
where the body that its creator provides goes. `Site.widgets_applyRules` says when and what, whatever else the rules
do to the element. The attributes of the root that these come out as are written by no rule, except for the listener
that an ordinary element carries itself (`Site.find?_applyRules_deferred`).
-/

namespace WidgetTemplates.Compile

open Script (Expr Stmt)
open Template (Attribute Element Node)

/-- Whether an element asks its root to listen to DOM events: an ordinary one that has a handler. -/
def asksEvents (el : Element) : Bool := !el.custom && el.attributes.any fun a => (handler? a).isSome

/-- Whether an element marks the place of the provided body: it has `w-body` without a value. -/
def marksBody (el : Element) : Bool := el.has "w-body" && (el.value? "w-body").isNone

/-! ## The event attributes of an element -/

/-- The attributes that listen to events, in order. -/
def eventAttributes (as : List Attribute) : List Attribute := as.filter isEvent

section EventAttributes

variable {as more : List Attribute} {a : Attribute} {name : String}

/-- The first event attribute is the one that is found and taken under its name. -/
theorem find?_eventAttributes (h : eventAttributes as = a :: more) :
    as.find? (·.name == a.name) = some a ∧ eventAttributes (as.eraseP (·.name == a.name)) = more := by
  have event : isEvent a = true := by
    have : a ∈ as.filter isEvent := by rw [← eventAttributes, h]; exact List.mem_cons_self
    exact (List.mem_filter.mp this).2
  induction as with
  | nil => cases h
  | cons b rest ih =>
    rcases hb : isEvent b with _ | _
    · have hne : b.name ≠ a.name := name_ne_of_isEvent event hb
      have hrest : eventAttributes rest = a :: more := by simpa [eventAttributes, hb] using h
      obtain ⟨hfind, herase⟩ := ih hrest
      refine ⟨by simpa [hne] using hfind, ?_⟩
      rw [List.eraseP_cons_of_neg (by simpa using hne), ← herase]
      simp [eventAttributes, hb]
    · obtain ⟨rfl, rfl⟩ : b = a ∧ eventAttributes rest = more := by simpa [eventAttributes, hb] using h
      exact ⟨by simp, by simp⟩

/-- An element has a handler if one of its event attributes has a value. -/
theorem any_handler? (as : List Attribute) :
    (as.any fun a => (handler? a).isSome) = (eventAttributes as).any (·.value.isSome) := by
  rw [eventAttributes, List.any_filter]
  congr 1
  funext a
  rw [isEvent, handler?]
  rcases Site.eventType? a.name with _ | type <;> rcases a.value with _ | e <;> rfl

/-- An element asks for DOM events if it is no custom tag and one of its event attributes has a value. -/
theorem asksEvents_eq (el : Element) :
    asksEvents el = (!el.custom && (eventAttributes el.attributes).any (·.value.isSome)) := by
  rw [asksEvents, any_handler?]

end EventAttributes

/-! ## What one element leaves with the open widget -/

namespace Site

variable {s : Site} {w : OpenWidget} {rest : List OpenWidget}

/-- The event attributes at a site. -/
def eventAttributes (s : Site) : List Attribute := Compile.eventAttributes s.el.attributes

/-- Whether an attribute listens to an event is seen from its name. -/
theorem eventAttributes_eq_select (s : Site) : s.eventAttributes = s.el.select fun n => (eventType? n).isSome := rfl

/-- No attribute that begins with another letter listens to events. -/
theorem eventType?_data (type : String) : eventType? ("data-w-on" ++ type) = none := by
  rw [eventType?, String.toList_append]
  rfl

/-- The event attributes of a site are event attributes. -/
theorem isEvent_of_eventAttributes {a : Attribute} {more : List Attribute} (events : s.eventAttributes = a :: more) :
    isEvent a = true := by
  have : a ∈ s.el.attributes.filter isEvent := by
    rw [show s.el.attributes.filter isEvent = a :: more from events]
    exact List.mem_cons_self
  exact (List.mem_filter.mp this).2

/-- The first event attribute is found under its name with its own value, and taken. -/
theorem handleEvent_first {a : Attribute} {more : List Attribute} (events : s.eventAttributes = a :: more) :
    s.el.value? a.name = a.value ∧ (s.handleEvent a.name).eventAttributes = more := by
  obtain ⟨hfind, hdrop⟩ := find?_eventAttributes events
  obtain ⟨type, htype⟩ := Option.isSome_iff_exists.mp (isEvent_of_eventAttributes events)
  refine ⟨by rw [Element.value?, Element.find?, hfind]; rfl, ?_⟩
  rw [handleEvent_eq htype]
  rcases s.el.value? a.name with _ | handler
  · exact hdrop
  · dsimp only
    rw [listen]
    split
    · exact hdrop
    · -- a listener is written as an attribute that is no event attribute itself
      have hquiet : (eventType? ("data-w-on" ++ type)).isSome = false := by rw [eventType?_data, Option.isSome_none]
      rw [eventAttributes_eq_select, select_setAttr (q := fun n => (eventType? n).isSome) hquiet]
      exact hdrop

/-- Listening to all events leaves no event attribute. -/
theorem eventAttributes_foldl_handleEvent {as : List Attribute} (events : s.eventAttributes = as) :
    ((as.map (·.name)).foldl handleEvent s).eventAttributes = [] := by
  induction as generalizing s with
  | nil => exact events
  | cons a more ih => exact ih (handleEvent_first events).2

/-- The event attributes of an ordinary element ask for DOM events if one of them has a value. -/
theorem widgets_foldl_handleEvent {as : List Attribute} (plain : s.el.custom = false)
    (events : s.eventAttributes = as) (opened : s.unit.widgets = w :: rest) :
    ((as.map (·.name)).foldl handleEvent s).unit.widgets =
      { w with domEvents := w.domEvents || as.any (·.value.isSome) } :: rest := by
  induction as generalizing s w with
  | nil => simpa using opened
  | cons a more ih =>
    obtain ⟨hvalue, hmore⟩ := handleEvent_first events
    have event : isEvent a = true := isEvent_of_eventAttributes events
    obtain ⟨type, htype⟩ := Option.isSome_iff_exists.mp event
    have hcustom : (s.handleEvent a.name).el.custom = false := (handleEvent_frame event s).2.2.1.trans plain
    have hopened : (s.handleEvent a.name).unit.widgets =
        { w with domEvents := w.domEvents || a.value.isSome } :: rest := by
      rw [handleEvent_eq htype, hvalue]
      rcases hv : a.value with _ | handler
      · simpa using opened
      · have hplain : (s.drop a.name).el.custom = false := plain
        simp only [listen, hplain, Bool.false_eq_true, if_false, setAttr, unit_drop, CompileUnit.modifyContaining,
          opened, Option.isSome_some, Bool.or_true]
    rw [List.map_cons, List.foldl_cons, ih hcustom hmore hopened, List.any_cons, Bool.or_assoc]

/-- A custom element hands its events over and leaves the open widgets alone. -/
theorem widgets_foldl_handleEvent_custom {names : List String} (custom : s.el.custom = true)
    (events : ∀ name ∈ names, (eventType? name).isSome = true) :
    (names.foldl handleEvent s).unit.widgets = s.unit.widgets := by
  induction names generalizing s with
  | nil => rfl
  | cons name more ih =>
    have hname := events name List.mem_cons_self
    have hcustom := (handleEvent_frame hname s).2.2.1.trans custom
    rw [List.foldl_cons, ih hcustom fun n hn => events n (List.mem_cons_of_mem _ hn)]
    obtain ⟨type, htype⟩ := Option.isSome_iff_exists.mp hname
    rw [handleEvent_eq htype]
    rcases s.el.value? name with _ | handler
    · rfl
    · have : (s.drop name).el.custom = true := custom
      dsimp only
      rw [listen, if_pos this]
      rfl

theorem widgets_nestedId (s : Site) : s.nestedId.2.unit.widgets = s.unit.widgets := (s.assign_frame s.inLoop).1

/-- The rule for events asks for DOM events if the element does. -/
theorem widgets_handleEvents (opened : s.unit.widgets = w :: rest) :
    s.handleEvents.unit.widgets = { w with domEvents := w.domEvents || asksEvents s.el } :: rest := by
  have events := s.forall_mem_eventNames
  have hheard : (s.eventNames.foldl handleEvent s).unit.widgets =
      { w with domEvents := w.domEvents || asksEvents s.el } :: rest := by
    rw [asksEvents_eq]
    rcases hc : s.el.custom with _ | _
    · rw [eventNames_eq]
      exact widgets_foldl_handleEvent hc rfl opened
    · rw [widgets_foldl_handleEvent_custom hc events, opened]
      simp
  have hinside : s.inWidget = true := inWidget_iff.mpr (by simp [opened])
  rcases s.handleEvents_cases with ⟨outside, -⟩ | ⟨outside, -⟩ | ⟨-, -, h⟩ | ⟨-, -, h⟩
  · cases hinside.symm.trans outside
  · cases hinside.symm.trans outside
  · rw [h]
    exact (widgets_nestedId _).trans hheard
  · rw [h, hheard]

/-- The rule for `w-id` teaches the widgets nothing. -/
theorem widgets_handleId (s : Site) : s.handleId.unit.widgets = s.unit.widgets := by
  rcases s.handleId_cases with ⟨-, h⟩ | ⟨-, ⟨-, h⟩ | ⟨-, ⟨-, h⟩ | ⟨-, h⟩⟩⟩ <;> rw [h]
  · rfl
  · exact s.widgets_nestedId
  · rw [unit_ensureVariable]
    exact (s.assign_frame s.inLoop).1

/-- Naming a type leaves the open widgets as they are. -/
theorem widgets_widgetTypeOf? {u u' : CompileUnit} {value : Option Expr} {widgetType : Expr}
    (h : u.widgetTypeOf? value = some (widgetType, u')) : u'.widgets = u.widgets := by
  rcases widgetTypeOf?_cases h with ⟨-, rfl⟩ | ⟨path, hpath⟩
  · rfl
  · obtain ⟨-, rfl⟩ := Prod.mk.inj hpath
    exact widgets_widgetType path u

theorem widgets_handleExtend (s : Site) : s.handleExtend.unit.widgets = s.unit.widgets := by
  rcases s.handleExtend_cases with h | ⟨p, h⟩ | ⟨a, widgetType, u, -, ht, h⟩
  · rw [h]
    rfl
  · rw [h]
    rfl
  · rw [h]
    exact widgets_widgetTypeOf? ht

theorem widgets_handleFor (s : Site) : s.handleFor.unit.widgets = s.unit.widgets := by
  rcases s.handleFor_cases with h | ⟨p, h⟩ | ⟨a, target, -, -, -, h⟩ <;> rw [h] <;> rfl

/-! ### The event attributes up to the rule for events -/

theorem eventAttributes_bind (s : Site) : s.bind.eventAttributes = s.eventAttributes := by
  rw [eventAttributes_eq_select, eventAttributes_eq_select, select_bind rfl rfl]

theorem eventAttributes_assign (s : Site) (repeated : Bool) :
    (s.assign repeated).eventAttributes = s.eventAttributes := by
  rw [eventAttributes_eq_select, eventAttributes_eq_select, select_assign rfl rfl]

theorem eventAttributes_handleId (s : Site) : s.handleId.eventAttributes = s.eventAttributes := by
  rw [eventAttributes_eq_select, eventAttributes_eq_select, select_handleId rfl rfl]

/-! ### The mark of a body -/

/-- The rule for bodies leaves the place of a provided body with the open widget. -/
theorem widgets_handleBody (opened : s.unit.widgets = w :: rest) :
    s.handleBody.unit.widgets =
      (if marksBody s.el then w.set "body" (if s.isRoot then .str "" else s.handleBody.id.nested) else w)
        :: rest := by
  have hslot : ∀ (t : Site) (id body : Expr), (t.slot id body).unit.widgets = t.unit.widgets :=
    fun t _ _ => widgets_importModule _ _ t.unit
  have hid : ∀ (t : Site) (id body : Expr), (t.slot id body).id = t.id := fun _ _ _ => rfl
  rw [marksBody]
  rcases s.handleBody_cases with ⟨has, h⟩ | ⟨has, ⟨outside, -⟩ | ⟨-, ⟨root, h⟩ | ⟨outer, h⟩⟩⟩
  · rw [h, has]
    exact opened
  · have hinside : s.inWidget = true := inWidget_iff.mpr (by simp [opened])
    cases hinside.symm.trans outside
  -- only a slot without a body of its own is announced: a root with the empty place, another element with its id
  · rw [h, has, root]
    rcases s.el.value? "w-body" with _ | body <;> simp only [rootSlot, fill] <;> rw [hslot]
    · simp only [CompileUnit.modifyContaining, unit_drop, opened]
      rfl
    · exact opened
  · rw [h, has, outer]
    rcases s.el.value? "w-body" with _ | body
    · obtain ⟨a, ha⟩ := (s.drop "w-body").assign_settles false
      obtain ⟨a', ha', hnested, -⟩ :=
        ensureVariable_ready (s := ((s.drop "w-body").assign false).announce "body" a.nested) ha
      have hassign := ((s.drop "w-body").assign_frame false).1
      rw [innerSlot_none ha, fill, hslot, hid, unit_ensureVariable, id_of_settled ha', hnested]
      simp only [announce, CompileUnit.modifyContaining, hassign, unit_drop, opened]
      rfl
    · obtain ⟨a, ha⟩ := (s.drop "w-body").assign_settles true
      have hassign := ((s.drop "w-body").assign_frame true).1
      rw [innerSlot_some body ha, fill, hslot, unit_ensureVariable, hassign]
      exact opened

/-! ### All rules -/

/-- What the rules for an element leave with an open widget. -/
theorem widgets_applyRules {s : Site} (opened : s.bind.unit.widgets = w :: rest) (honest : Honest s.el s)
    (outer : s.isRoot = false) (unsettled : s.assigned = none) :
    s.applyRules.unit.widgets =
      (let heard := { w with domEvents := w.domEvents || asksEvents s.el }
        if marksBody s.el then
          heard.set "body" (if s.bind.isRoot then .str "" else s.applyRules.id.nested)
        else heard) :: rest := by
  let t : Site := if s.bind.isRoot then s.bind else s.bind.handleId
  have early : Edits s.el false s s.beforeBody := beforeBody_edits honest outer unsettled
  have hopened : t.unit.widgets = w :: rest := by
    simp only [t]
    split
    · exact opened
    · exact s.bind.widgets_handleId.trans opened
  have hevents : t.eventAttributes = s.eventAttributes := by
    simp only [t]
    split
    · exact s.eventAttributes_bind
    · exact s.bind.eventAttributes_handleId.trans s.eventAttributes_bind
  have hroot : s.beforeBody.isRoot = s.bind.isRoot := by
    rw [beforeBody, isRoot_handleFor, isRoot_handleExtend, isRoot_handleEvents]
    split
    · rfl
    · exact s.bind.isRoot_handleId
  have hasks : asksEvents t.el = asksEvents s.el := by
    have hcustom : t.el.custom = s.el.custom := by
      have bound : Edits s.el false s s.bind := bind_edits honest outer unsettled
      simp only [t]
      split
      · exact bound.custom
      · next hr =>
        have named : Edits s.el false s.bind s.bind.handleId := handleId_edits (by simpa using hr)
        exact named.custom.trans bound.custom
    rw [asksEvents_eq, asksEvents_eq, hcustom]
    exact congrArg (fun as => !s.el.custom && as.any (·.value.isSome)) hevents
  have hheard : s.beforeBody.unit.widgets = { w with domEvents := w.domEvents || asksEvents s.el } :: rest := by
    rw [beforeBody, widgets_handleFor, widgets_handleExtend, widgets_handleEvents hopened, hasks]
  have hmarks : marksBody s.beforeBody.el = marksBody s.el := by
    have hfind := early.early.1
    rw [marksBody, marksBody, Element.value?, Element.value?, hfind, Element.has_congr hfind]
  rw [applyRules_eq, widgets_handleBody hheard, hmarks, hroot]

/-! ### The two attributes that only a root gets -/

/-- Before the root is finished nothing writes `data-w-body`, and `data-w-on` is written only on an element that asks
for DOM events. -/
theorem Edit.find?_deferred {orig : Element} {late : Bool} {s s' : Site} {name : String}
    (h : Edit orig late s s') (custom : s.el.custom = orig.custom)
    (deferred : name = "data-w-body" ∨ name = "data-w-on" ∧ asksEvents orig = false) :
    s'.el.find? name = s.el.find? name := by
  have hname : isWidgetName name = false ∧ name ≠ "id" ∧ name ≠ "for" := by
    rcases deferred with rfl | ⟨rfl, -⟩ <;> exact ⟨rfl, by decide, by decide⟩
  have hne : ∀ {other : String}, isWidgetName other = true → name ≠ other := by
    rintro other hother rfl
    exact absurd (hname.1.symm.trans hother) (by simp)
  cases h with
  | drop other widgetName => exact Element.find?_remove_ne (hne widgetName)
  | takeBody => exact Element.find?_remove_ne (hne rfl)
  | enter => exact (find?_bindId_ne (hne rfl) s).1
  | assign repeated => exact (find?_assign_ne name (hne rfl) hname.2.1 s repeated).1
  | ensureVariable => exact (find?_ensureVariable s name).1
  | label => exact Element.find?_set_ne hname.2.2
  | listen other type handler given named =>
    rw [Site.listen]
    split
    · rfl
    · next hcustom =>
      refine Element.find?_set_ne ?_
      rcases deferred with rfl | ⟨rfl, hquiet⟩
      · intro heq
        exact absurd (congrArg String.toList heq) (by simp)
      · -- an ordinary element with this handler asks for DOM events
        obtain ⟨a, ha, rfl, hvalue⟩ := given
        have hasks : asksEvents orig = true := by
          rw [asksEvents, ← custom, Bool.and_eq_true, List.any_eq_true]
          exact ⟨by simpa using hcustom, a, ha, by rw [handler?, named, hvalue]; rfl⟩
        exact absurd (hasks.symm.trans hquiet) (by simp)
  | _ => rfl

/-- The rules leave alone what is written when a widget is closed. -/
theorem find?_applyRules_deferred {el : Element} {u : CompileUnit} {inLoop : Bool} {name : String}
    (deferred : name = "data-w-body" ∨ name = "data-w-on" ∧ asksEvents el = false) :
    (start el u inLoop).applyRules.el.find? name = el.find? name := by
  have hkeeps := (start_edits el u inLoop).keeps
    (p := fun t => t.el.custom = el.custom ∧ t.el.find? name = el.find? name) ?_ ⟨rfl, rfl⟩
  · exact hkeeps.2
  · rintro t t' step ⟨hcustom, hfind⟩
    exact ⟨(congrArg Background.custom step.background).trans hcustom,
      (step.find?_deferred hcustom deferred).trans hfind⟩

end Site

end WidgetTemplates.Compile
