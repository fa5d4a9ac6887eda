import Mathlib.Data.List.Induction
import WidgetTemplates.Compile.Handover

/-!
# The arguments of the depositing call

What the next widget receives is set piece by piece, in any order and any number of times. The runtime takes it apart by
position: the last id, all events, the last base widget (`Laid`). One setting changes one of the three and leaves
nothing empty (`Setting.apply_eq`, `Setting.isEmpty_apply`), so a run of settings ends in the last id, all events in
order and the last base widget (`ofSettings_eq`), and the call tells the runtime just these (`deposited_args`).
-/

namespace WidgetTemplates.Compile

open Script (Expr)
open Template (Element)

/-! ## Settings -/

/-- Something that is set on what the next widget receives: its id, one more custom event, or the widget that it
extends. -/
inductive Setting where
  | id (id : Expr)
  | event (type : String) (handler : Expr)
  | extension (widgetType : Expr) (config state : Option Expr)

namespace Setting

/-- What the next widget receives with the setting. -/
def apply (h : Handover) : Setting → Handover
  | id e => h.setId e
  | event type handler => h.addEvent type handler
  | extension widgetType config state => h.setExtension widgetType config state

/-- The id that is set. -/
def id? : Setting → Option Expr
  | id e => some e
  | _ => none

/-- The event that is set. -/
def event? : Setting → Option (String × Expr)
  | event type handler => some (type, handler)
  | _ => none

/-- The base widget that is set. -/
def extension? : Setting → Option Extension
  | extension widgetType config state => some ⟨widgetType, config, state⟩
  | _ => none

/-- A setting replaces the id or the base widget, or it adds an event behind the others. -/
theorem apply_eq (h : Handover) (s : Setting) :
    s.apply h = ⟨s.id?.or h.id, h.events ++ s.event?.toList, s.extension?.or h.extension⟩ := by
  cases s <;> simp [apply, id?, event?, extension?, Handover.setId, Handover.addEvent, Handover.setExtension]

/-- Whatever is set, something is handed over. -/
theorem isEmpty_apply (h : Handover) (s : Setting) : (s.apply h).isEmpty = false := by
  cases s <;> simp [apply, Handover.isEmpty, Handover.setId, Handover.addEvent, Handover.setExtension]

end Setting

variable (settings : List Setting)

/-- The id that is set last. -/
def lastId? : Option Expr := (settings.filterMap Setting.id?).getLast?

/-- The events that are set, in order. -/
def eventsSet : List (String × Expr) := settings.filterMap Setting.event?

/-- The base widget that is set last. -/
def lastExtension? : Option Extension := (settings.filterMap Setting.extension?).getLast?

namespace Handover

/-- What the next widget receives after settings one after another. -/
def ofSettings : Handover := settings.foldl Setting.apply {}

/-- The latest setting is made on what the earlier ones have set. -/
theorem ofSettings_concat (s : Setting) : ofSettings (settings ++ [s]) = s.apply (ofSettings settings) := by
  rw [ofSettings, List.foldl_append, List.foldl_cons, List.foldl_nil]
  rfl

/-- What is handed over has the last id, all events and the last extension that have been set. -/
theorem ofSettings_eq : ofSettings settings = ⟨lastId? settings, eventsSet settings, lastExtension? settings⟩ := by
  induction settings using List.reverseRecOn with
  | nil => rfl
  | append_singleton settings s ih =>
    rw [ofSettings_concat, Setting.apply_eq, ih]
    cases s <;>
      simp [lastId?, eventsSet, lastExtension?, Setting.id?, Setting.event?, Setting.extension?, List.getLast?_append]

/-- Nothing is handed over exactly if nothing has been set. -/
theorem isEmpty_ofSettings : (ofSettings settings).isEmpty = true ↔ settings = [] := by
  rcases List.eq_nil_or_concat settings with rfl | ⟨settings, s, rfl⟩
  · exact iff_of_true rfl rfl
  · rw [List.concat_eq_append, ofSettings_concat, Setting.isEmpty_apply]
    simp

end Handover

/-! ## Positions -/

/-- The events of a list of types and handlers that take turns. -/
def pairsOf : List Expr → List (String × Expr)
  | .str type :: handler :: rest => (type, handler) :: pairsOf rest
  | _ => []

/-- No event is lost when types and handlers are listed in turns. -/
theorem pairsOf_flatMap (events : List (String × Expr)) :
    pairsOf (events.flatMap fun e => [.str e.1, e.2]) = events := by
  induction events with
  | nil => rfl
  | cons e events ih => exact congrArg (e :: ·) ih

/-- The positions at which the runtime finds what is handed over.
* The output comes first. The id of the containing widget is there exactly if an id or an event refers to it (`scope`).
* The events are pairs in one list, from which they can be read back. Without events their place is only taken if
something comes behind it.
* The base widget comes with its configuration and its state, or `null` for these. Nothing that is absent stands at the
end (`length`). -/
structure Laid (id : Option Expr) (events : List (String × Expr)) (extension : Option Extension)
    (args : List Expr) : Prop where
  out : args[0]? = some .out
  scope : args[1]? = some (if id.isSome ∨ events ≠ [] then Expr.widget.member "id" else .null)
  id : args[2]? = some (id.getD .null)
  events_of_ne_nil : events ≠ [] → ∃ listed, args[3]? = some (.array listed) ∧
    listed = (events.flatMap fun e => [.str e.1, e.2]) ∧ pairsOf listed = events
  no_events : events = [] → args[3]? = extension.map fun _ => .null
  widgetType : args[4]? = extension.map (·.widgetType)
  config : args[5]? = extension.map (·.config.getD .null)
  state : args[6]? = extension.map (·.state.getD .null)
  length : args.length = if extension.isSome then 7 else if events ≠ [] then 4 else 3

/-- The arguments of the depositing call are laid out as the runtime reads them. -/
theorem Handover.laid_args (h : Handover) : Laid h.id h.events h.extension h.args := by
  obtain ⟨id, events, extension⟩ := h
  rcases events with _ | ⟨e, events⟩ <;> rcases extension with _ | x
  all_goals
    constructor <;> simp [Handover.args, pairsOf_flatMap, pairsOf]

/-- **The depositing call tells by position what was set.** If nothing was set, the element and the declarations stay as
they are; otherwise one call is added before the element and one behind it, and the arguments of the first are the last
id, all events in order and the last base widget, each at its place. -/
theorem deposited_args (el : Element) (u : CompileUnit) :
    ((Handover.ofSettings settings).isEmpty = true ↔ settings = []) ∧
      (Handover.ofSettings settings).surround el u =
        (if settings = [] then (el, u)
        else
          ({ el with
              before := el.before ++ [.expr (.call (.ident "__widgetArgs") (Handover.ofSettings settings).args)]
              after := .expr (.call (.ident "_cleanupWidgetArgs") [.out]) :: el.after },
            (u.importHelper "__widgetArgs" "marko-widgets/taglib/helpers/widgetArgs").declare
              "_cleanupWidgetArgs" "__widgetArgs.cleanup")) ∧
      Laid (lastId? settings) (eventsSet settings) (lastExtension? settings) (Handover.ofSettings settings).args := by
  refine ⟨Handover.isEmpty_ofSettings settings, ?_, ?_⟩
  · rw [Handover.surround]
    simp only [Handover.isEmpty_ofSettings]
    rfl
  · have hlaid := (Handover.ofSettings settings).laid_args
    rwa [Handover.ofSettings_eq] at hlaid ⊢

end WidgetTemplates.Compile
