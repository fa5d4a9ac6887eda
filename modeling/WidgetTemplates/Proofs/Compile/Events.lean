import WidgetTemplates.Proofs.Compile.Rules

/-!
# The events of a custom element

A custom element in a widget hands over its event attributes: each one that has a value, with the type of the
event, in the order in which the attributes stand (`foldl_handleEvent_custom`). The attributes themselves are
taken, whether they have a value or not.
-/

namespace WidgetTemplates.Compile

open Script (Expr Stmt)
open Template (Attribute Element)

/-- Whether an attribute listens to an event. -/
def isEvent (a : Attribute) : Bool := (Site.eventType? a.name).isSome

/-- The event that an attribute listens to, with its handler. -/
def handler? (a : Attribute) : Option (String × Expr) :=
  match Site.eventType? a.name, a.value with
  | some type, some handler => some (type, handler)
  | _, _ => none

/-- An event attribute and any other one have different names. -/
theorem name_ne_of_isEvent {a b : Attribute} (event : isEvent a = true) (other : isEvent b = false) :
    b.name ≠ a.name := by
  intro heq
  rw [isEvent, heq] at other
  exact absurd (event.symm.trans other) (by simp)

/-- An attribute that listens to no event has no handler. -/
theorem handler?_eq_none {a : Attribute} (other : isEvent a = false) : handler? a = none := by
  rw [handler?, Option.isNone_iff_eq_none.mp (Option.isSome_eq_false_iff.mp other)]

/-- Whether an element has a handler of an event. -/
def HasHandler (el : Element) : Prop := ∃ a ∈ el.attributes, (handler? a).isSome = true

namespace Site

/-- What the site hands over so far. -/
def handedOver (s : Site) : Handover := s.handover.getD {}

variable {s : Site}

/-- The first attribute behind `kept` is the one that is found and taken under its name, if no attribute of
`kept` has that name. -/
theorem take_behind {a : Attribute} {kept rest : List Attribute}
    (split : s.el.attributes = kept ++ a :: rest) (apart : ∀ b ∈ kept, b.name ≠ a.name) :
    s.el.find? a.name = some a ∧ (s.drop a.name).el.attributes = kept ++ rest := by
  have hkept : ∀ b ∈ kept, ¬ (b.name == a.name) = true := fun b hb => by simpa using apart b hb
  constructor
  · rw [Element.find?, split, List.find?_append, List.find?_eq_none.mpr hkept]
    simp
  · rw [drop, takeAttr, Element.remove, split, List.eraseP_append_right _ hkept]
    simp

/-- The first event attribute behind `kept` is taken, and its handler, if it has one, is listened to. -/
theorem handleEvent_behind {a : Attribute} {kept rest : List Attribute} (split : s.el.attributes = kept ++ a :: rest)
    (event : isEvent a = true) (quiet : ∀ b ∈ kept, isEvent b = false) :
    (s.drop a.name).el.attributes = kept ++ rest ∧
      s.handleEvent a.name =
        match handler? a with
        | some (type, handler) => (s.drop a.name).listen type handler
        | none => s.drop a.name := by
  obtain ⟨type, htype⟩ := Option.isSome_iff_exists.mp event
  obtain ⟨hfind, hdrop⟩ := take_behind split fun b hb => name_ne_of_isEvent event (quiet b hb)
  refine ⟨hdrop, ?_⟩
  rw [handleEvent_eq htype, Element.value?, hfind, handler?, htype, Option.bind_some]
  rcases a.value with _ | handler <;> rfl

/-- The event attributes behind `kept` are taken one by one, and those with a value are handed over. -/
theorem foldl_handleEvent_custom (custom : s.el.custom = true) {kept rest : List Attribute}
    (split : s.el.attributes = kept ++ rest) (quiet : ∀ a ∈ kept, isEvent a = false) :
    let s' := ((rest.filter isEvent).map (·.name)).foldl handleEvent s
    s'.el.attributes = kept ++ rest.filter (fun a => !isEvent a) ∧
      s'.handedOver.events = s.handedOver.events ++ rest.filterMap handler? ∧
      s'.handedOver.id = s.handedOver.id := by
  induction rest generalizing s kept with
  | nil => simpa using split
  | cons a rest ih =>
    rcases ha : isEvent a with _ | _
    · have hquiet : ∀ b ∈ kept ++ [a], isEvent b = false := by
        simpa [or_imp, forall_and, ha] using quiet
      have := ih custom (split.trans (List.append_cons kept a rest)) hquiet
      simpa [ha, handler?_eq_none ha] using this
    · obtain ⟨hdrop, hevent⟩ := handleEvent_behind split ha quiet
      -- the site after this attribute, from which the induction goes on
      obtain ⟨t, ht, htcustom, htsplit, htevents, htid⟩ : ∃ t, s.handleEvent a.name = t ∧
          t.el.custom = true ∧ t.el.attributes = kept ++ rest ∧
          t.handedOver.events = s.handedOver.events ++ (handler? a).toList ∧
          t.handedOver.id = s.handedOver.id := by
        refine ⟨_, hevent, ?_⟩
        rcases handler? a with _ | ⟨type, handler⟩
        · exact ⟨custom, hdrop, (List.append_nil _).symm, rfl⟩
        · dsimp only
          rw [listen, if_pos (by exact custom)]
          exact ⟨custom, hdrop, rfl, rfl⟩
      have := ih htcustom htsplit quiet
      simp only [List.filter_cons, ha, if_true, List.map_cons, List.foldl_cons, ht, Bool.not_true,
        Bool.false_eq_true, if_false]
      refine ⟨this.1, ?_, this.2.2.trans htid⟩
      rw [this.2.1, htevents, List.append_assoc]
      congr 1
      rcases hh : handler? a with _ | h <;> simp [hh]

/-- The site hands over an id or an event, so that the next widget refers to the one around it. -/
def RefersToWidget (s : Site) : Prop := s.handedOver.id.isSome = true ∨ s.handedOver.events ≠ []

/-- The event attributes of a site are those of its element, in order. -/
theorem eventNames_eq (s : Site) : s.eventNames = (s.el.attributes.filter isEvent).map (·.name) := by
  rw [eventNames, Element.names, List.filter_map]
  rfl

/-- An element has a handler exactly if one of its attributes yields one. -/
theorem hasHandler_iff (el : Element) : HasHandler el ↔ el.attributes.filterMap handler? ≠ [] := by
  simp [HasHandler, List.filterMap_eq_nil_iff, Option.isSome_iff_ne_none]

/-- In a widget the rule for events makes an element refer to it exactly if it is a custom one that has a
handler, given that it did not refer to it before. -/
theorem handleEvents_refers (inside : s.inWidget = true) (before : ¬ s.RefersToWidget) :
    s.handleEvents.RefersToWidget ↔ s.el.custom = true ∧ HasHandler s.el := by
  have hbefore : s.handedOver.id = none ∧ s.handedOver.events = [] := by
    simpa [RefersToWidget] using before
  have events := s.forall_mem_eventNames
  -- the site after the event attributes, and what it hands over
  have hheard : (s.eventNames.foldl handleEvent s).handedOver.id = none ∧
      (s.eventNames.foldl handleEvent s).handedOver.events =
        if s.el.custom then s.el.attributes.filterMap handler? else [] := by
    rcases hc : s.el.custom with _ | _
    · rw [handedOver, foldl_handleEvent_handover events hc]
      exact hbefore
    · obtain ⟨-, hevents, hid⟩ := foldl_handleEvent_custom (s := s) hc (List.nil_append _).symm nofun
      rw [eventNames_eq]
      exact ⟨hid.trans hbefore.1, by rw [hevents, hbefore.2]; rfl⟩
  obtain ⟨hid, hevents⟩ := hheard
  rw [hasHandler_iff]
  rcases s.handleEvents_cases with ⟨outside, -⟩ | ⟨outside, -⟩ | ⟨-, hlt, h⟩ | ⟨-, hge, h⟩
  · cases inside.symm.trans outside
  · cases inside.symm.trans outside
  · -- an event has been handed over, which only a custom element with a handler does
    have hne : (s.eventNames.foldl handleEvent s).handedOver.events ≠ [] :=
      List.ne_nil_of_length_pos (Nat.zero_lt_of_lt hlt)
    rw [h]
    refine iff_of_true (.inl rfl) ?_
    rw [hevents] at hne
    rcases hc : s.el.custom with _ | _
    · exact absurd (by rw [hc]; rfl) hne
    · rw [hc] at hne
      exact ⟨rfl, hne⟩
  · have hnil : (s.eventNames.foldl handleEvent s).handedOver.events = [] := by
      rw [show (s.handover.getD {}).events = [] from hbefore.2] at hge
      exact List.length_eq_zero_iff.mp (Nat.eq_zero_of_not_pos hge)
    rw [h, RefersToWidget, hid, hnil]
    rw [hnil] at hevents
    rcases hc : s.el.custom with _ | _
    · simp
    · rw [hc, if_pos rfl] at hevents
      rw [← hevents]
      simp

end Site

end WidgetTemplates.Compile
