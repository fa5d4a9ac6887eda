import WidgetTemplates.Proofs.Compile.Rules

/-!
# Which attributes a rule touches

A rule takes the attributes that it is about and writes one or two of its own. All others keep their values and their
order: `Element.select` gives the attributes of certain names, and each lemma says which names a rule must not be about
for these attributes to stay as they are. For a single name this is what `Element.find?` finds.
-/

namespace WidgetTemplates.Compile

open Script (Expr Stmt)
open Template (Element Node Problem Attribute)

namespace Site

variable {q : String → Bool} {s : Site} {repeated : Bool}

/-- Dropping an attribute that is not selected does not change what is. -/
theorem select_drop {name : String} (other : q name = false) : (s.drop name).el.select q = s.el.select q :=
  Element.select_remove other

/-- Setting an attribute that is not selected does not change what is. -/
theorem select_setAttr {name : String} (other : q name = false) (value : Expr) :
    (s.setAttr name value).el.select q = s.el.select q :=
  Element.select_set other value

/-- Declaring the variable of an id does not change what is selected. -/
theorem select_ensureVariable (s : Site) : s.ensureVariable.el.select q = s.el.select q := by
  rw [Element.select, Element.select, attributes_ensureVariable]

section Id

variable (given : q "w-id" = false)
include given

/-- Taking the id of a root takes `w-id`. -/
theorem select_bindId : s.bindId.el.select q = s.el.select q := by
  have hdrop : (s.drop "w-id").el.select q = s.el.select q := select_drop given
  rcases s.bindId_cases with h | ⟨-, h⟩ | ⟨-, e, h⟩ <;> rw [h] <;> exact hdrop

/-- Binding a widget takes `w-bind` as well. -/
theorem select_bind (bound : q "w-bind" = false) : s.bind.el.select q = s.el.select q := by
  have hdrop : (s.drop "w-bind").el.select q = s.el.select q := select_drop bound
  rcases s.bind_cases with ⟨-, h⟩ | ⟨a, -, ⟨-, p, h⟩ | ⟨widgetType, u, -, h⟩⟩
  · rw [h]
  · rw [h]
    exact hdrop
  · rw [h]
    exact (select_bindId (s := { s.drop "w-bind" with unit := u }) given).trans hdrop

variable (id : q "id" = false)
include id

/-- Settling the id takes `w-id` and writes `id`. -/
theorem select_assign : (s.assign repeated).el.select q = s.el.select q := by
  have htaken : (s.drop "w-id").el.select q = s.el.select q := select_drop given
  refine assign_induction (motive := fun t => t.el.select q = s.el.select q) rfl (fun _ _ _ => htaken)
    (fun _ _ => htaken) ?_ ?_
  · intro t ht
    rwa [select_ensureVariable]
  · exact fun _ ht => (select_setAttr id _).trans ht

/-- An element that is no root takes `w-id`, and settles its id if it lies in a widget. -/
theorem select_handleId : s.handleId.el.select q = s.el.select q := by
  rcases s.handleId_cases with ⟨-, h⟩ | ⟨-, ⟨-, h⟩ | ⟨-, ⟨-, h⟩ | ⟨-, h⟩⟩⟩ <;> rw [h]
  · exact select_drop given
  · exact select_assign given id
  · exact (select_ensureVariable _).trans (select_assign given id)

end Id

section Events

variable (events : ∀ name, (eventType? name).isSome = true → q name = false)
  (listeners : ∀ type, q ("data-w-on" ++ type) = false)
include events listeners

/-- The rule for an event does not change what is selected. -/
theorem select_handleEvent {name : String} (event : (eventType? name).isSome = true) :
    (s.handleEvent name).el.select q = s.el.select q := by
  have hdrop : (s.drop name).el.select q = s.el.select q := select_drop (events name event)
  obtain ⟨type, htype⟩ := Option.isSome_iff_exists.mp event
  rw [handleEvent_eq htype]
  rcases s.el.value? name with _ | handler
  · exact hdrop
  · dsimp only
    rw [listen]
    split
    · exact hdrop
    · exact (select_setAttr (s := s.drop name) (listeners type) _).trans hdrop

/-- The rules for events do not change what is selected. -/
theorem select_foldl_handleEvent {names : List String} (named : ∀ name ∈ names, (eventType? name).isSome = true) :
    (names.foldl handleEvent s).el.select q = s.el.select q := by
  induction names generalizing s with
  | nil => rfl
  | cons name rest ih =>
    obtain ⟨hname, hrest⟩ := List.forall_mem_cons.mp named
    exact (ih hrest).trans (select_handleEvent events listeners hname)

/-- Listening to events takes the event attributes and writes listeners; a custom element settles its id. -/
theorem select_handleEvents (given : q "w-id" = false) (id : q "id" = false) :
    s.handleEvents.el.select q = s.el.select q := by
  have hheard : (s.eventNames.foldl handleEvent s).el.select q = s.el.select q :=
    select_foldl_handleEvent events listeners s.forall_mem_eventNames
  rcases s.handleEvents_cases with ⟨-, -, h⟩ | ⟨-, first, more, -, h⟩ | ⟨-, -, h⟩ | ⟨-, -, h⟩ <;> rw [h]
  · rfl
  · exact (select_assign given id).trans hheard
  · exact hheard

end Events

/-- Extending a widget takes the three attributes that describe the base widget. -/
theorem select_handleExtend (extend : q "w-extend" = false) (config : q "w-config" = false)
    (state : q "w-state" = false) : s.handleExtend.el.select q = s.el.select q := by
  have hdrop : (s.drop "w-extend").el.select q = s.el.select q := select_drop extend
  rcases s.handleExtend_cases with h | ⟨p, h⟩ | ⟨a, widgetType, u, -, -, h⟩
  · rw [h, hdrop]
  · rw [h]
    exact hdrop
  · rw [h]
    exact (select_drop (s := (s.drop "w-extend").drop "w-config") state).trans
      ((select_drop (s := s.drop "w-extend") config).trans hdrop)

/-- Pointing a label at an element takes `w-for` and writes `for`. -/
theorem select_handleFor (label : q "w-for" = false) (target : q "for" = false) :
    s.handleFor.el.select q = s.el.select q := by
  have hdrop : (s.drop "w-for").el.select q = s.el.select q := select_drop label
  rcases s.handleFor_cases with h | ⟨p, h⟩ | ⟨a, e, -, -, -, h⟩
  · rw [h, hdrop]
  · rw [h]
    exact hdrop
  · rw [h]
    exact (select_setAttr (s := s.drop "w-for") target _).trans hdrop

/-- Marking the place of a body takes `w-body`; an element that is no root settles its id. -/
theorem select_handleBody (body : q "w-body" = false) (given : q "w-id" = false) (id : q "id" = false) :
    s.handleBody.el.select q = s.el.select q := by
  apply handleBody_induction (motive := fun t => t.el.select q = s.el.select q)
  · exact fun _ => rfl
  · exact fun _ => rfl
  · exact fun _ => select_drop body
  · exact fun _ _ ht => (select_assign given id).trans ht
  · exact fun _ _ ht => ht
  · exact fun t ht => (select_ensureVariable t).trans ht
  · exact fun _ _ _ ht => ht

end Site

end WidgetTemplates.Compile
