import WidgetTemplates.Proofs.Compile.CountedIds
import WidgetTemplates.Proofs.Compile.WidgetScope

/-!
# Where a settled id goes

An id is of use when it reaches its element. An ordinary element has the absolute form of its id as the attribute
`id`. A custom element renders something else, so it hands the nested form over to the widget in there. The rules for
`w-id` and for events do so as they settle the id. The rule for `w-body` settles an id as well and renders the body in
a slot with that id, but hands nothing over. So an id that only a body slot asks for does not reach a custom element,
and the slot has an id that no element has.

`Site.HandsSettled` says that nothing but the settled id is handed over, `Turn.handedId` says when there is one, and
the main result is `delivered_ids_iff`.
-/

namespace WidgetTemplates.Compile

open Script (Expr Stmt)
open Template (Element Node)

/-- Whether a body slot is all that asks for the id of an element: neither `w-id` nor a handler on a custom element
does. -/
def asksAsAnySlot (el : Element) : Bool := el.has "w-body" && !(el.has "w-id" || handsEvents el)

namespace Site

variable {orig : Element} {late : Bool} {s s' : Site}

/-! ## The id that is handed over -/

/-- An id that is handed over is the settled one. -/
def HandsSettled (s : Site) : Prop :=
  ∀ id, s.handedOver.id = some id → ∃ a, s.assigned = some a ∧ a.nested = id

/-- Whether the settled id is handed over depends on these two parts of a site. -/
theorem HandsSettled.of_frame (h : HandsSettled s) (assigned : s'.assigned = s.assigned)
    (id : s'.handedOver.id = s.handedOver.id) : HandsSettled s' := by
  intro e he
  rw [assigned]
  exact h e (id ▸ he)

/-- Declaring the variable of an id keeps what is handed over. -/
theorem HandsSettled.ensureVariable (h : HandsSettled s) : HandsSettled s.ensureVariable := by
  intro e he
  rw [handedOver, handover_ensureVariable] at he
  obtain ⟨a, ha, rfl⟩ := h e he
  obtain ⟨a', ha', hnested, -⟩ := ensureVariable_ready ha
  exact ⟨a', ha', hnested⟩

/-- Settling an id hands it over where it has to be. -/
theorem HandsSettled.assign (h : HandsSettled s) (repeated : Bool) : HandsSettled (s.assign repeated) := by
  rcases ha : s.assigned with _ | a
  · -- before an id is settled none is handed over
    intro e he
    rw [handedOver, handover_assign] at he
    obtain ⟨a, ha', -⟩ := h e he
    exact absurd (ha'.symm.trans ha) (Option.some_ne_none a)
  · rwa [assign_of_settled ha]

/-- An edit that makes the element no root hands over the settled id, if any. -/
theorem Edit.handsSettled (h : Edit orig late s s') (stays : s'.isRoot = s.isRoot) (hands : HandsSettled s) :
    HandsSettled s' := by
  cases h with
  | enter widgetType names outer => exact nomatch stays.trans outer
  | assign repeated => exact hands.assign repeated
  | ensureVariable => exact hands.ensureVariable
  | handId a settled =>
    intro e he
    exact ⟨a, settled, Option.some.inj he⟩
  | listen name type handler =>
    unfold Site.listen
    split <;> exact hands.of_frame rfl rfl
  | _ => exact hands.of_frame rfl rfl

/-- The edits at an element hand over the settled id, if they hand over any. -/
theorem Edits.handsSettled (h : Edits orig late s s') (stays : s'.isRoot = s.isRoot) (hands : HandsSettled s) :
    HandsSettled s' :=
  h.keeps_of_isRoot stays (fun _ _ step hstays ih => step.handsSettled hstays ih) hands

/-! ## Which rules hand over the id -/

/-- Listening to events hands over no id. -/
theorem handedId_heard (s : Site) : (s.eventNames.foldl handleEvent s).handedOver.id = s.handedOver.id := by
  have events := s.forall_mem_eventNames
  rcases hc : s.el.custom with _ | _
  · rw [handedOver, foldl_handleEvent_handover events hc, handedOver]
  · obtain ⟨-, -, hid⟩ := foldl_handleEvent_custom (s := s) hc (List.nil_append _).symm (List.forall_mem_nil _)
    rwa [← eventNames_eq] at hid

variable (inside : s.inWidget = true)
include inside

/-- The rule for `w-id` hands over the id of a custom element. -/
theorem isSome_handedId_handleId :
    s.handleId.handedOver.id.isSome = (s.handedOver.id.isSome || s.el.custom && s.el.has "w-id") := by
  rcases s.handleId_cases with ⟨has, h⟩ | ⟨has, ⟨outside, -⟩ | ⟨-, ⟨custom, h⟩ | ⟨plain, h⟩⟩⟩
  · rw [h, has, Bool.and_false, Bool.or_false]
  · cases inside.symm.trans outside
  · rw [h, has, custom, Bool.and_true, Bool.or_true]
    rfl
  · rw [h, handedOver, handover_ensureVariable, handover_assign, plain, Bool.false_and, Bool.or_false]
    rfl

/-- The rule for events hands over the id of a custom element that has a handler. -/
theorem isSome_handedId_handleEvents :
    s.handleEvents.handedOver.id.isSome = (s.handedOver.id.isSome || handsEvents s.el) := by
  rcases handleEvents_inside inside with ⟨hasks, h⟩ | ⟨hasks, h⟩
  · rw [h, hasks, Bool.or_true]
    rfl
  · rw [h, hasks, Bool.or_false, handedId_heard]

end Site

/-! ## The turn of one element -/

namespace Turn

variable (t : Turn)

/-- The statement before the finished element hands over an id. -/
def HandsId (id : Expr) : Prop :=
  ∃ h, t.site.handover = some h ∧ h.id = some id ∧ Site.depositStmt h ∈ t.woven.before

/-- An id reaches the finished element: as the `id` of an ordinary one, and in what a custom one hands over. -/
def Delivers (a : AssignedId) : Prop :=
  if t.el.custom then t.HandsId a.nested else t.woven.find? "id" = some ⟨"id", some a.absolute⟩

/-- The rules after the one for events hand over no other id. -/
theorem handedId_site : t.site.handedOver.id = t.named.handleEvents.handedOver.id := by
  have hsite : t.site = t.named.handleEvents.handleExtend.handleFor.handleBody := rfl
  rw [hsite, Site.handedOver, Site.handover_handleBody, Site.handover_handleFor]
  exact (Site.handedOver_handleExtend _).1

variable {t} (loose : t.bound = false)
include loose

/-- An element that is not bound comes to the rule for `w-id` with nothing handed over. -/
theorem handover_entered_of_loose : t.entered.handover = none := by
  rcases (Site.start t.el t.unit t.inLoop).bind_cases with ⟨-, h⟩ | ⟨a, -, ⟨-, p, h⟩ | ⟨widgetType, u, -, h⟩⟩
  · rw [entered, h]
    rfl
  · rw [entered, h]
    rfl
  · rw [bound, h] at loose
    cases loose

/-- What is handed over as an id is the settled one. -/
theorem handsSettled_site : t.site.HandsSettled := by
  obtain ⟨edits, stays⟩ := t.edits_of_mem_stages t.site_mem_stages
  refine edits.handsSettled stays ?_
  intro id hid
  rw [Site.handedOver, handover_entered_of_loose loose] at hid
  cases hid

/-- A custom element hands over an id exactly if `w-id` or a handler asks for it. -/
theorem isSome_handedId_site (inside : t.entered.inWidget = true) :
    t.site.handedOver.id.isSome = (t.el.custom && t.el.has "w-id" || handsEvents t.el) := by
  have hentered : t.entered.handedOver.id = none := by
    rw [Site.handedOver, handover_entered_of_loose loose]
    rfl
  have hcustom : t.entered.el.custom = t.el.custom := (t.edits_to_stage t.entered_mem_stages).custom
  have hid : t.entered.el.has "w-id" = t.el.has "w-id" := Element.has_congr (t.find?_id_entered loose)
  have hinside : t.named.inWidget = true := (t.inWidget_of_mem_stages (by simp [stages])).trans inside
  rw [t.handedId_site, Site.isSome_handedId_handleEvents hinside, t.handsEvents_named, t.named_of_loose loose,
    Site.isSome_handedId_handleId inside, hentered, hid, hcustom]
  rfl

/-- What is handed over stands in a statement before the finished element. -/
theorem deposit_mem_before {h : Handover} (handed : t.site.handover = some h) (full : h.isEmpty = false) :
    Site.depositStmt h ∈ t.woven.before := by
  let s : Site := { t.site with unit := t.inside }
  have hfinished : t.finished = s.surround := t.finished_eq_handed loose
  rw [woven, hfinished]
  rcases s.surround_cases with ⟨-, hempty⟩ | ⟨h', hh', -, hs⟩
  · exact absurd (full.symm.trans (hempty h handed)) Bool.false_ne_true
  · obtain rfl := Option.some.inj (handed.symm.trans hh')
    rw [hs]
    exact List.mem_append_right _ (List.mem_singleton_self _)

/-- What is rendered after the children of an element that is not bound has been settled by the rules. -/
theorem appended_of_loose : t.finished.appended = t.site.appended := by
  rw [t.finished_eq_handed loose, t.appended_handed]

/-- The settled id of an element in a widget reaches it, unless it is a custom element and only a body slot asks for
the id. -/
theorem delivers_iff (inside : t.unit.widgets ≠ []) {a : AssignedId} (settled : t.site.assigned = some a) :
    t.Delivers a ↔ ¬ (t.el.custom = true ∧ asksAsAnySlot t.el = true) := by
  have hentered := t.inWidget_entered_of_loose loose inside
  rw [Delivers]
  rcases hc : t.el.custom with _ | _
  · -- the attribute is written when the id is settled, whatever asks for it
    obtain ⟨hfind, -, -⟩ := (Site.applyRules_ordinaryId (t.isRoot_site.trans loose) hc).settled a settled
    refine iff_of_true ?_ (by simp)
    rw [if_neg (by decide), (t.woven_of_loose loose).1]
    exact hfind
  · have hasks := t.settled_site hentered
    have hhanded := isSome_handedId_site loose hentered
    rw [settled, asksId, if_neg (by simp [loose])] at hasks
    rw [hc] at hhanded
    have hslot : asksAsAnySlot t.el = true ↔ t.site.handedOver.id.isSome = false := by
      rw [hhanded, asksAsAnySlot]
      revert hasks
      rcases t.el.has "w-id" with _ | _ <;> rcases handsEvents t.el with _ | _ <;> simp
    rw [if_pos rfl, hslot]
    simp only [true_and, Bool.not_eq_false]
    constructor
    · rintro ⟨h, hh, hid, -⟩
      rw [Site.handedOver, hh]
      exact Option.isSome_iff_exists.mpr ⟨_, hid⟩
    · intro hsome
      obtain ⟨id, hid⟩ := Option.isSome_iff_exists.mp hsome
      obtain ⟨a', ha', hnested⟩ := handsSettled_site loose id hid
      obtain rfl := Option.some.inj (settled.symm.trans ha')
      rcases hh : t.site.handover with _ | h
      · rw [Site.handedOver, hh] at hid
        cases hid
      · rw [Site.handedOver, hh] at hid
        have hid' : h.id = some a.nested := hnested ▸ hid
        exact ⟨h, hh, hid', deposit_mem_before loose hh (by simp [Handover.isEmpty, hid'])⟩

/-- If only a body slot asks for the id of a custom element, no id is handed over at all. -/
theorem handedId_of_slot (inside : t.unit.widgets ≠ []) (slot : asksAsAnySlot t.el = true) :
    t.site.handedOver.id = none := by
  have hentered := t.inWidget_entered_of_loose loose inside
  obtain ⟨-, hid, hevents⟩ : t.el.has "w-body" = true ∧ t.el.has "w-id" = false ∧ handsEvents t.el = false := by
    simpa [asksAsAnySlot] using slot
  have hhanded := isSome_handedId_site loose hentered
  rw [hid, hevents, Bool.and_false, Bool.or_false] at hhanded
  simpa using hhanded

end Turn

/-! ## Forests -/

/-- **Which settled ids reach their elements.** An element in a widget that is not bound has an id settled exactly if
`w-id`, a handler on a custom element or `w-body` asks for it, and if there is a slot, it has this id. The id reaches
the finished element, except when the element is a custom one and nothing but the slot asks for the id: then no id is
handed over, and the slot has an id that no element has. -/
theorem delivered_ids_iff (u : CompileUnit) (nodes : List Node) :
    elementsAll (weave u nodes).1 = (turnsAll false u nodes).map Turn.woven ∧
      ∀ t ∈ turnsAll false u nodes, t.bound = false → t.unit.widgets ≠ [] →
        t.site.assigned.isSome = (t.el.has "w-id" || handsEvents t.el || t.el.has "w-body") ∧
          ∀ a, t.site.assigned = some a →
            (t.Delivers a ↔ ¬ (t.el.custom = true ∧ asksAsAnySlot t.el = true)) ∧
            (t.el.custom = true → asksAsAnySlot t.el = true → t.site.handedOver.id = none) ∧
            (t.el.has "w-body" = true → ∃ content, t.finished.appended = [Site.slotCall a.absolute content]) := by
  refine ⟨elementsAll_weaveForest false u nodes, ?_⟩
  intro t _ loose inside
  have hentered := t.inWidget_entered_of_loose loose inside
  refine ⟨?_, ?_⟩
  · rw [t.settled_site hentered, Turn.asksId, if_neg (by simp [loose])]
  · intro a settled
    refine ⟨Turn.delivers_iff loose inside settled, fun _ slot => Turn.handedId_of_slot loose inside slot, ?_⟩
    intro marked
    obtain ⟨a', content, ha', happended⟩ := Site.applyRules_slot (t.isRoot_site.trans loose) inside marked
    obtain rfl := Option.some.inj (settled.symm.trans ha')
    exact ⟨content, (Turn.appended_of_loose loose).trans happended⟩

/-- A custom element that is the place of the body and has a handler: the handler asks for the id `0`, which is handed
over together with the event, and the slot has the same id. -/
theorem delivered_id_of_listening_slot :
    let nodes : List Node :=
      [.element { tag := "div", attributes := [⟨"w-bind", some (.str "./w")⟩] }
        [.element { tag := "app-x", custom := true, attributes := [⟨"w-body", none⟩, ⟨"w-onclick", some (.str "go")⟩] }
          []]]
    ∃ t ∈ turnsAll false {} nodes, t.el.tag = "app-x" ∧ t.bound = false ∧ t.unit.widgets ≠ [] ∧
      ∃ a, t.site.assigned = some a ∧ a.nested = .str "0" ∧ t.HandsId a.nested ∧
        ∃ content, t.finished.appended = [Site.slotCall a.absolute content] := by
  intro nodes
  obtain ⟨-, hdelivered⟩ := delivered_ids_iff {} nodes
  obtain ⟨root, app, hturns, htag, loose, inside, custom, hslot, hbody, hid⟩ : ∃ root app,
      turnsAll false {} nodes = [root, app] ∧ app.el.tag = "app-x" ∧ app.bound = false ∧ app.unit.widgets ≠ [] ∧
        app.el.custom = true ∧ asksAsAnySlot app.el = false ∧ app.el.has "w-body" = true ∧
          app.site.assigned = some (.numbered 0 false) :=
    ⟨_, _, rfl, rfl, rfl, List.cons_ne_nil _ _, rfl, rfl, rfl, rfl⟩
  have hmem : app ∈ turnsAll false {} nodes := by simp [hturns]
  obtain ⟨hiff, -, hcall⟩ := (hdelivered app hmem loose inside).2 _ hid
  have hdelivers := hiff.mpr (by simp [hslot])
  rw [Turn.Delivers, if_pos custom] at hdelivers
  exact ⟨app, hmem, htag, loose, inside, _, hid, rfl, hdelivers, hcall hbody⟩

/-- A custom element that is just the place of the body: the slot has the id `0`, and nothing is handed over. -/
theorem undelivered_id_of_slot :
    let nodes : List Node :=
      [.element { tag := "div", attributes := [⟨"w-bind", some (.str "./w")⟩] }
        [.element { tag := "app-x", custom := true, attributes := [⟨"w-body", none⟩] } []]]
    ∃ t ∈ turnsAll false {} nodes, t.el.tag = "app-x" ∧ t.bound = false ∧ t.unit.widgets ≠ [] ∧
      ∃ a, t.site.assigned = some a ∧ ¬ t.Delivers a ∧ t.site.handover = none ∧ t.woven.before = [] ∧
        t.finished.appended = [Site.slotCall (elementIdCall (some (.str "0"))) Site.providedBody] := by
  intro nodes
  obtain ⟨root, app, hturns, htag, loose, inside, custom, hid, hhandover, hbefore, hcall⟩ : ∃ root app,
      turnsAll false {} nodes = [root, app] ∧ app.el.tag = "app-x" ∧ app.bound = false ∧ app.unit.widgets ≠ [] ∧
        app.el.custom = true ∧ app.site.assigned = some (.numbered 0 false) ∧ app.site.handover = none ∧
          app.woven.before = [] ∧
            app.finished.appended = [Site.slotCall (elementIdCall (some (.str "0"))) Site.providedBody] :=
    ⟨_, _, rfl, rfl, rfl, List.cons_ne_nil _ _, rfl, rfl, rfl, rfl, rfl⟩
  refine ⟨app, by simp [hturns], htag, loose, inside, _, hid, ?_, hhandover, hbefore, hcall⟩
  rw [Turn.Delivers, if_pos custom]
  rintro ⟨h, hh, -⟩
  exact nomatch hhandover.symm.trans hh

end WidgetTemplates.Compile
