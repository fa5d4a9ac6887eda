import WidgetTemplates.Proofs.Compile.Allocation
import WidgetTemplates.Proofs.Compile.DeferredWrites

/-!
# Which widget attributes are left

The rules take the widget attributes that they act on, and no rule writes one. So an attribute that is gone after one
rule is gone for good (`Site.Edits.gone`), and what is left of an element is found rule by rule, provided that it lists
no name twice: a rule takes one attribute of a name. Whatever the element, `w-bind`, `w-id`, `w-extend` and `w-for` are
taken (`Turn.spent_woven`). The event attributes and `w-body` are taken in a widget (`Turn.heard_woven`) and stay
outside, where they are reported (`Turn.left_woven`).
-/

namespace WidgetTemplates.Compile

open Script (Expr Stmt)
open Template (Attribute Element Node)

/-- An element without the widget attributes that are taken in any case: it opens no widget, asks for no id of its own,
extends no widget and points at no other element. -/
structure Spent (el : Element) : Prop where
  bind : el.find? "w-bind" = none
  id : el.find? "w-id" = none
  extend : el.find? "w-extend" = none
  label : el.find? "w-for" = none

namespace Site

variable {orig : Element} {late : Bool} {s s' : Site} {name : String}

/-! ## Attributes that are gone -/

/-- Attributes that list no name twice go on doing so. -/
theorem keptByRules_nodup : KeptByRules fun as => (as.map (·.name)).Nodup where
  remove _ distinct := distinct.sublist (List.eraseP_sublist.map _)
  set value _ distinct := Element.nodup_names_setIn distinct _ value

/-- The edits at an element keep its attribute names distinct. -/
theorem Edits.nodup (h : Edits orig late s s') (distinct : s.el.names.Nodup) : s'.el.names.Nodup :=
  h.keepsAttributes keptByRules_nodup distinct

/-- A widget attribute that is gone does not come back. -/
theorem Edits.gone (h : Edits orig late s s') (widgetName : isWidgetName name = true)
    (gone : s.el.find? name = none) : s'.el.find? name = none := by
  have honest : Honest s.el s' := h.honest fun a ha _ => ha
  rw [Element.find?, List.find?_eq_none] at gone ⊢
  intro a ha hname
  exact gone a (honest a ha (eq_of_beq hname ▸ widgetName)) hname

/-- When no event attribute is left, none comes back. -/
theorem Edits.heard (h : Edits orig late s s') (heard : s.eventAttributes = []) : s'.eventAttributes = [] := by
  have honest : Honest s.el s' := h.honest fun a ha _ => ha
  rw [eventAttributes, Compile.eventAttributes, List.filter_eq_nil_iff] at heard ⊢
  intro a ha event
  obtain ⟨type, htype⟩ := Option.isSome_iff_exists.mp event
  exact heard a (honest a ha (isWidgetName_of_eventType? htype)) event

/-! ## Which rule takes which attribute -/

section Rules

variable (distinct : s.el.names.Nodup)
include distinct

/-- The rule for `w-bind` takes that attribute. -/
theorem find?_bind : s.bind.el.find? "w-bind" = none := by
  have hgone : (s.drop "w-bind").el.find? "w-bind" = none := Element.find?_remove_self distinct
  rcases s.bind_cases with ⟨hf, h⟩ | ⟨a, -, ⟨-, p, h⟩ | ⟨widgetType, u, -, h⟩⟩
  · rw [h, hf]
  · rw [h]
    exact hgone
  · rw [h]
    exact (find?_bindId_ne (by decide) { s.drop "w-bind" with unit := u }).1.trans hgone

/-- Settling the id takes `w-id`. -/
theorem find?_assign_id (unsettled : s.assigned = none) (repeated : Bool) :
    (s.assign repeated).el.find? "w-id" = none := by
  have hgone : (s.chooseId repeated).2.el.find? "w-id" = none := by
    rcases s.chooseId_cases repeated with ⟨e, -, h⟩ | ⟨-, h⟩ <;> rw [h] <;> exact Element.find?_remove_self distinct
  rw [assign_eq unsettled]
  dsimp only
  split
  · exact hgone
  · exact (Element.find?_set_ne (by decide)).trans ((find?_ensureVariable _ "w-id").1.trans hgone)

/-- The rule for `w-id` takes that attribute, if no id is settled. -/
theorem find?_handleId (unsettled : s.assigned = none) : s.handleId.el.find? "w-id" = none := by
  have hgone := find?_assign_id distinct unsettled s.inLoop
  rcases s.handleId_cases with ⟨has, h⟩ | ⟨-, ⟨-, h⟩ | ⟨-, ⟨-, h⟩ | ⟨-, h⟩⟩⟩ <;> rw [h]
  · exact Element.find?_eq_none.mpr has
  · exact Element.find?_remove_self distinct
  · exact hgone
  · exact (find?_ensureVariable _ "w-id").1.trans hgone

/-- The rule for `w-extend` takes that attribute. -/
theorem find?_handleExtend : s.handleExtend.el.find? "w-extend" = none := by
  have hgone : (s.drop "w-extend").el.find? "w-extend" = none := Element.find?_remove_self distinct
  rcases s.handleExtend_cases with h | ⟨p, h⟩ | ⟨a, widgetType, u, -, -, h⟩
  · rw [h, hgone]
  · rw [h]
    exact hgone
  · rw [h]
    exact (Element.find?_remove_ne (by decide)).trans ((Element.find?_remove_ne (by decide)).trans hgone)

/-- The rule for `w-for` takes that attribute. -/
theorem find?_handleFor : s.handleFor.el.find? "w-for" = none := by
  have hgone : (s.drop "w-for").el.find? "w-for" = none := Element.find?_remove_self distinct
  rcases s.handleFor_cases with h | ⟨p, h⟩ | ⟨a, target, -, -, -, h⟩
  · rw [h, hgone]
  · rw [h]
    exact hgone
  · rw [h]
    exact (Element.find?_set_ne (by decide)).trans hgone

/-- In a widget the rule for bodies takes `w-body`. -/
theorem find?_handleBody (inside : s.inWidget = true) : s.handleBody.el.find? "w-body" = none := by
  apply handleBody_induction (motive := fun t => t.el.find? "w-body" = none)
  · exact Element.find?_eq_none.mpr
  · intro outside
    cases inside.symm.trans outside
  · exact fun _ => Element.find?_remove_self distinct
  · exact fun t repeated ht => (find?_assign_ne "w-body" (by decide) (by decide) t repeated).1.trans ht
  · exact fun _ _ ht => ht
  · exact fun t ht => (t.find?_ensureVariable "w-body").1.trans ht
  · exact fun _ _ _ ht => ht

end Rules

/-- In a widget the rule for events takes every event attribute. -/
theorem eventAttributes_handleEvents (inside : s.inWidget = true) : s.handleEvents.eventAttributes = [] := by
  have hheard : (s.eventNames.foldl handleEvent s).eventAttributes = [] := by
    rw [eventNames_eq]
    exact eventAttributes_foldl_handleEvent rfl
  rcases handleEvents_inside inside with ⟨-, h⟩ | ⟨-, h⟩
  · rw [h]
    exact (eventAttributes_assign _ _).trans hheard
  · rw [h, hheard]

theorem eventAttributes_handleExtend (s : Site) : s.handleExtend.eventAttributes = s.eventAttributes := by
  rw [eventAttributes_eq_select, eventAttributes_eq_select, select_handleExtend rfl rfl rfl]

theorem eventAttributes_handleFor (s : Site) : s.handleFor.eventAttributes = s.eventAttributes := by
  rw [eventAttributes_eq_select, eventAttributes_eq_select, select_handleFor rfl rfl]

/-! ## Outside the widgets -/

section Outside

variable (outside : s.inWidget = false)
include outside

/-- Outside the widgets the first event attribute is reported, and nothing else happens to any of them. -/
theorem handleEvents_outside :
    s.handleEvents = match s.eventAttributes.head? with
      | some a => s.report (.outsideWidget a.name)
      | none => s := by
  have hnames : s.eventNames = s.eventAttributes.map (·.name) := s.eventNames_eq
  rcases s.handleEvents_cases with ⟨-, hnone, h⟩ | ⟨-, first, more, hsome, h⟩ | ⟨inside, -⟩ | ⟨inside, -⟩
  · rw [h, List.map_eq_nil_iff.mp (hnames.symm.trans hnone)]
    rfl
  · obtain ⟨a, events, hevents, rfl, -⟩ := List.map_eq_cons_iff.mp (hnames.symm.trans hsome)
    rw [h, hevents]
    rfl
  · cases inside.symm.trans outside
  · cases inside.symm.trans outside

/-- Outside the widgets the mark of a body slot is reported, and nothing else happens to it. -/
theorem handleBody_outside :
    s.handleBody = if s.el.has "w-body" then s.report .bodyOutsideWidget else s := by
  rcases s.handleBody_cases with ⟨has, h⟩ | ⟨has, ⟨-, h⟩ | ⟨inside, -⟩⟩
  · rw [h, has]
    rfl
  · rw [h, has]
    rfl
  · cases inside.symm.trans outside

/-- Outside of widgets the rule for `w-body` leaves the element as it is. -/
theorem el_handleBody_outside : s.handleBody.el = s.el := by
  rw [handleBody_outside outside]
  rcases s.el.has "w-body" with _ | _ <;> rfl

end Outside

/-- What goes on holding of attributes when widget attributes are taken and others are set holds of a finished root. -/
theorem KeptByRules.finishRoot {p : List Attribute → Prop} (kept : KeptByRules p) {el : Element} {w : OpenWidget}
    (only : w.pending = [] ∨ ∃ e, w.pending = [("body", e)]) (h : p el.attributes) :
    p (Site.finishRoot el w).attributes := by
  rw [Site.finishRoot]
  have hnamed : p ((el.set "id" (Expr.widget.member "id")).set "data-widget" (w.widgetType.member "name")).attributes :=
    kept.set _ rfl (kept.set _ rfl h)
  have hbody : isWidgetName (pendingName "body") = false := rfl
  -- at most two further attributes are written, neither of which is a widget attribute
  rcases only with hw | ⟨e, hw⟩ <;> rw [hw] <;> rcases w.domEvents with _ | _
  · exact hnamed
  · exact kept.set _ rfl hnamed
  · exact kept.set _ hbody hnamed
  · exact kept.set _ hbody (kept.set _ rfl hnamed)

end Site

/-! ## The turn of one element -/

namespace Turn

variable (t : Turn)

/-- The rules after those for `w-id`, events and base widgets go on editing the element. -/
theorem edits_to_site :
    Site.Edits t.el true t.named t.site ∧ Site.Edits t.el true t.named.handleEvents t.site ∧
      Site.Edits t.el true t.named.handleEvents.handleExtend t.site ∧
      Site.Edits t.el true t.named.handleEvents.handleExtend.handleFor t.site := by
  have honest : ∀ s ∈ t.stages, Site.Honest t.el s := fun s hs => (t.edits_of_mem_stages hs).1.honest t.honest_entered
  have hlast : Site.Edits t.el true t.named.handleEvents.handleExtend.handleFor t.site :=
    Site.start_late t.el t.unit t.inLoop
  have hlabelled : Site.Edits t.el true t.named.handleEvents.handleExtend t.site :=
    (Site.handleFor_edits (honest _ (by simp [stages]))).trans hlast
  have hextended : Site.Edits t.el true t.named.handleEvents t.site :=
    (Site.handleExtend_edits (honest _ (by simp [stages]))).trans hlabelled
  exact ⟨(Site.handleEvents_edits (honest _ (by simp [stages]))).trans hextended, hextended, hlabelled, hlast⟩

/-- No stage of an element that lists no attribute name twice does. -/
theorem nodup_of_mem_stages (distinct : t.el.names.Nodup) {s : Site} (h : s ∈ t.stages) : s.el.names.Nodup := by
  exact (t.edits_to_stage h).nodup distinct

/-- An element is finished without a further widget attribute. -/
theorem keepsAttributes_woven {p : List Attribute → Prop} (kept : Site.KeptByRules p) (h : p t.site.el.attributes) :
    p t.woven.attributes := by
  rcases hb : t.bound with _ | _
  · rw [woven, t.finished_eq_handed hb, t.attributes_handed]
    exact h
  · obtain ⟨w, el, hwoven, hattributes, -, -, hpending⟩ := t.finished_taught hb
    rw [hwoven]
    refine kept.finishRoot (pending_taught hpending) ?_
    rw [hattributes]
    exact h

/-- The widget attributes of a finished element are those that the rules have left. -/
theorem gone_woven {name : String} (widgetName : isWidgetName name = true) (gone : t.site.el.find? name = none) :
    t.woven.find? name = none := by
  have honest := t.keepsAttributes_woven (Site.keptByRules_honest t.site.el) fun a ha _ => ha
  rw [Element.find?, List.find?_eq_none] at gone ⊢
  intro a ha hname
  exact gone a (honest a ha (eq_of_beq hname ▸ widgetName)) hname

/-- **The attributes that are taken in any case are gone in the end**, whatever the element is and wherever it lies. -/
theorem spent_woven (distinct : t.el.names.Nodup) : Spent t.woven := by
  obtain ⟨hnamed, -, hextended, hlabelled⟩ := t.edits_to_site
  have nodup : ∀ s ∈ t.stages, s.el.names.Nodup := fun s hs => t.nodup_of_mem_stages distinct hs
  have hid : t.named.el.find? "w-id" = none := by
    rcases hb : t.bound with _ | _
    · rw [t.named_of_loose hb]
      exact Site.find?_handleId (nodup _ t.entered_mem_stages) (Site.start t.el t.unit t.inLoop).assigned_bind.1
    · rw [t.named_of_bound hb, t.find?_id_entered_of_bound distinct hb]
  constructor
  · exact t.gone_woven rfl ((t.edits_of_mem_stages t.site_mem_stages).1.gone rfl (Site.find?_bind distinct))
  · exact t.gone_woven rfl (hnamed.gone rfl hid)
  · exact t.gone_woven rfl (hextended.gone rfl (Site.find?_handleExtend (nodup _ (by simp [stages]))))
  · exact t.gone_woven rfl (hlabelled.gone rfl (Site.find?_handleFor (nodup _ (by simp [stages]))))

/-- In a widget the event attributes and the mark of a body slot are gone as well. -/
theorem heard_woven (distinct : t.el.names.Nodup) (inside : t.entered.inWidget = true) :
    eventAttributes t.woven.attributes = [] ∧ t.woven.find? "w-body" = none := by
  obtain ⟨-, hheard, -, -⟩ := t.edits_to_site
  have hinside : ∀ s ∈ t.stages, s.inWidget = true := fun s hs => (t.inWidget_of_mem_stages hs).trans inside
  constructor
  · have hsite : t.site.eventAttributes = [] :=
      hheard.heard (Site.eventAttributes_handleEvents (hinside _ (by simp [stages])))
    have honest := t.keepsAttributes_woven (Site.keptByRules_honest t.site.el) fun a ha _ => ha
    rw [Site.eventAttributes, eventAttributes, List.filter_eq_nil_iff] at hsite
    rw [eventAttributes, List.filter_eq_nil_iff]
    intro a ha event
    obtain ⟨type, htype⟩ := Option.isSome_iff_exists.mp event
    exact hsite a (honest a ha (Site.isWidgetName_of_eventType? htype)) event
  · have hlabelled : t.named.handleEvents.handleExtend.handleFor ∈ t.stages := by simp [stages]
    refine t.gone_woven rfl ?_
    exact Site.find?_handleBody (t.nodup_of_mem_stages distinct hlabelled) (hinside _ hlabelled)

/-- What lies in no widget after its own could open has opened none. -/
theorem loose_of_outside (outside : t.entered.inWidget = false) : t.bound = false := by
  by_contra bound
  obtain ⟨a, widgetType, u, -, -, hentered⟩ := t.widgets_entered_of_bound (by simpa using bound)
  have hinside : t.entered.inWidget = true := Site.inWidget_iff.mpr (by rw [hentered]; exact List.cons_ne_nil _ _)
  exact nomatch hinside.symm.trans outside

/-- An element that is not bound keeps its attributes and its location when it is finished. -/
theorem attributes_woven_of_loose (loose : t.bound = false) :
    t.woven.attributes = t.site.el.attributes ∧ t.woven.location = t.el.location := by
  rw [woven, t.finished_eq_handed loose]
  exact ⟨t.attributes_handed, t.location_handed⟩

/-- Outside the widgets the event attributes and the mark of a body slot stay. -/
theorem left_woven (outside : t.entered.inWidget = false) :
    eventAttributes t.woven.attributes = eventAttributes t.el.attributes ∧
      t.woven.find? "w-body" = t.el.find? "w-body" := by
  let last := (Site.start t.el t.unit t.inLoop).beforeBody
  have hstages : ∀ s ∈ t.stages, s.inWidget = false := fun s hs => (t.inWidget_of_mem_stages hs).trans outside
  obtain ⟨-, hinside, hbody⟩ := t.beforeBody_frame
  -- the last rule leaves the element as it finds it
  have hsite : t.site.el = last.el := Site.el_handleBody_outside (hinside.trans outside)
  have hevents : last.eventAttributes = eventAttributes t.el.attributes := by
    have hlast : last = t.named.handleEvents.handleExtend.handleFor := rfl
    have hheard : t.named.handleEvents.eventAttributes = t.named.eventAttributes := by
      rw [Site.handleEvents_outside (hstages _ (by simp [stages]))]
      rcases t.named.eventAttributes.head? with _ | a <;> rfl
    rw [hlast, Site.eventAttributes_handleFor, Site.eventAttributes_handleExtend, hheard, t.eventAttributes_named]
  obtain ⟨hattributes, -⟩ := t.attributes_woven_of_loose (t.loose_of_outside outside)
  rw [Element.find?, hattributes, hsite]
  exact ⟨hevents, hbody⟩

end Turn

end WidgetTemplates.Compile
