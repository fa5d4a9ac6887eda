import WidgetTemplates.Proofs.Compile.Allocation

/-!
# What the rules do to the id

Few things happen to the id of an element while the rules run. The id is settled, in the repeated form or in the fixed
one; the variable of the settled id is declared; and all else touches neither the id nor the numbers nor the statements
before the element (`Site.IdStep`). The rules before the last one settle the id in the form that the loops around the
element ask for (`Site.idSteps_beforeBody`), the last one in either form. No rule depends on those before it here.
-/

namespace WidgetTemplates.Compile

open Script (Expr Stmt)
open Relation (ReflTransGen)

namespace Site

variable {form : Bool → Prop} {s s' : Site}

/-- What a step does to the id of a site, if the id is only settled in some of the two forms: it settles the id,
declares the variable of the settled id, or touches neither what is settled nor the numbers nor the statements before
the element. -/
inductive IdStep (form : Bool → Prop) : Site → Site → Prop
  | aside {s s' : Site} (assigned : s'.assigned = s.assigned) (before : s'.el.before = s.el.before)
    (next : s'.unit.nextId = s.unit.nextId) (loop : s'.inLoop = s.inLoop) : IdStep form s s'
  | assign (s : Site) (repeated : Bool) (asked : form repeated) : IdStep form s (s.assign repeated)
  | ensureVariable (s : Site) : IdStep form s s.ensureVariable

/-- A sequence of steps. -/
abbrev IdSteps (form : Bool → Prop) : Site → Site → Prop := ReflTransGen (IdStep form)

/-- A step that does nothing to the id is a run of such steps. -/
theorem IdSteps.aside (assigned : s'.assigned = s.assigned) (before : s'.el.before = s.el.before)
    (next : s'.unit.nextId = s.unit.nextId) (loop : s'.inLoop = s.inLoop) : IdSteps form s s' :=
  .single (.aside assigned before next loop)

/-- No step moves the element into a loop or out of one. -/
theorem IdSteps.inLoop_eq (steps : IdSteps form s s') : s'.inLoop = s.inLoop := by
  induction steps with
  | refl => rfl
  | tail _ step ih =>
    cases step with
    | aside assigned before next loop => exact loop.trans ih
    | assign repeated => exact (congrArg Background.inLoop (background_assign _ repeated)).trans ih
    | ensureVariable => exact (congrArg Background.inLoop (background_ensureVariable _)).trans ih

/-- The rule for `w-bind` settles no id. -/
theorem idSteps_bind (s : Site) : IdSteps form s s.bind := by
  obtain ⟨hassigned, hnext⟩ := s.assigned_bind
  refine .aside hassigned ?_ hnext ?_ <;>
    rcases s.bind_cases with ⟨-, h⟩ | ⟨a, -, ⟨-, p, h⟩ | ⟨widgetType, u, -, h⟩⟩ <;> rw [h]
  · rfl
  · let t : Site := { s.drop "w-bind" with unit := u }
    rcases t.bindId_cases with h | ⟨-, h⟩ | ⟨-, e, h⟩ <;> rw [h] <;> rfl
  · rfl
  · exact congrArg Background.inLoop (background_bindId _)

/-- Listening to events is no matter of the id. -/
theorem idSteps_foldl_handleEvent {names : List String} (events : ∀ name ∈ names, (eventType? name).isSome = true)
    (s : Site) : IdSteps form s (names.foldl handleEvent s) := by
  induction names generalizing s with
  | nil => exact .refl
  | cons name rest ih =>
    have hstep : IdSteps form s (s.handleEvent name) := by
      obtain ⟨type, htype⟩ := Option.isSome_iff_exists.mp (events name List.mem_cons_self)
      rw [handleEvent_eq htype]
      rcases s.el.value? name with _ | handler
      · exact .aside rfl rfl rfl rfl
      · dsimp only
        rw [listen]
        split
        · exact .aside rfl rfl rfl rfl
        · exact .aside rfl rfl (nextId_modifyContaining _ _) rfl
    exact hstep.trans (ih (fun n hn => events n (List.mem_cons_of_mem _ hn)) _)

/-- The rule for `w-extend` settles no id. -/
theorem idSteps_handleExtend (s : Site) : IdSteps form s s.handleExtend := by
  rcases s.handleExtend_cases with h | ⟨p, h⟩ | ⟨a, widgetType, u, -, ht, h⟩ <;> rw [h]
  · exact .aside rfl rfl rfl rfl
  · exact .aside rfl rfl rfl rfl
  · exact .aside rfl rfl (nextId_widgetTypeOf? ht) rfl

/-- The rule for `w-for` settles no id. -/
theorem idSteps_handleFor (s : Site) : IdSteps form s s.handleFor := by
  rcases s.handleFor_cases with h | ⟨p, h⟩ | ⟨a, target, -, -, -, h⟩ <;> rw [h] <;> exact .aside rfl rfl rfl rfl

section Asked

variable (s : Site) (asked : form s.inLoop)
include asked

/-- Giving the absolute form settles the id and then declares its variable. -/
theorem idSteps_absoluteId : IdSteps form s s.absoluteId.2 :=
  (ReflTransGen.single (.assign s s.inLoop asked)).tail (.ensureVariable _)

/-- The rule for `w-id` settles the id as it is given. -/
theorem idSteps_handleId : IdSteps form s s.handleId := by
  rcases s.handleId_cases with ⟨-, h⟩ | ⟨-, ⟨-, h⟩ | ⟨-, ⟨-, h⟩ | ⟨-, h⟩⟩⟩ <;> rw [h]
  · exact .aside rfl rfl rfl rfl
  · have settled : IdSteps form s s.nestedId.2 := .single (.assign s s.inLoop asked)
    exact settled.tail (.aside rfl rfl rfl rfl)
  · exact s.idSteps_absoluteId asked

/-- The rules for events settle ids as they need them. -/
theorem idSteps_handleEvents : IdSteps form s s.handleEvents := by
  have listened : IdSteps form s _ := idSteps_foldl_handleEvent s.forall_mem_eventNames s
  rcases s.handleEvents_cases with ⟨-, -, h⟩ | ⟨-, first, more, -, h⟩ | ⟨-, -, h⟩ | ⟨-, -, h⟩ <;> rw [h]
  · exact .aside rfl rfl rfl rfl
  · exact (listened.tail (.assign _ _ (by rwa [listened.inLoop_eq]))).tail (.aside rfl rfl rfl rfl)
  · exact listened

/-- The rules before the last one settle the id in the form that the loops around the element ask for. -/
theorem idSteps_beforeBody : IdSteps form s s.beforeBody := by
  have bound : IdSteps form s s.bind := s.idSteps_bind
  have named : IdSteps form s (if s.bind.isRoot then s.bind else s.bind.handleId) := by
    split
    · exact bound
    · exact bound.trans (s.bind.idSteps_handleId (by rwa [bound.inLoop_eq]))
  have heard : IdSteps form s _ := named.trans (idSteps_handleEvents _ (by rwa [named.inLoop_eq]))
  exact (heard.trans (idSteps_handleExtend _)).trans (idSteps_handleFor _)

end Asked

/-- Rendering a body in a slot is no matter of the id; preparing the slot of an element that is no root is. -/
theorem idSteps_handleBody (s : Site) (asked : ∀ repeated, form repeated) : IdSteps form s s.handleBody := by
  apply handleBody_induction (motive := IdSteps form s)
  · exact fun _ => .refl
  · exact fun _ => .aside rfl rfl rfl rfl
  · exact fun _ => .aside rfl rfl rfl rfl
  · exact fun t repeated steps => steps.tail (.assign t repeated (asked repeated))
  -- announcing the place of a body and rendering the body leave the id and the counter alone
  · exact fun t _ steps => steps.tail (.aside rfl rfl (nextId_modifyContaining t.unit _) rfl)
  · exact fun t steps => steps.tail (.ensureVariable t)
  · exact fun t _ _ steps => steps.tail (.aside rfl rfl (nextId_importModule t.unit _ _) rfl)

end Site

end WidgetTemplates.Compile
