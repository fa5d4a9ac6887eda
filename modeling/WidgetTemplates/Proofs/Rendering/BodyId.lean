import WidgetTemplates.Proofs.Compile.SettledId
import WidgetTemplates.Proofs.Rendering.Scene

/-!
# The id of an element and the id of its body slot

An element with `w-body` uses its id twice when the template runs: in its `id` attribute and in the call that
renders the body. `slot_id_eq_iff` says exactly when the two are the same text. They are unless the template
gives the element a repeated id, which then is counted twice; the ids that the rules make up themselves are
either fixed or kept in a variable.
-/

namespace WidgetTemplates.Rendering

open Compile (AssignedId CompileUnit OpenWidget Site elementIdCall)
open Script (Expr Stmt)
open Template (Element)
open Page (Widget)

variable {feed : Nat → String}

/-- A literal id that is evaluated twice in a row gives the same text exactly if it is a fixed one. -/
theorem eval_literal_twice {scene : Scene} (inside : scene.opened ≠ []) (nested : String) :
    let first := scene.eval feed (elementIdCall (some (.str nested)))
    first.1 = (first.2.eval feed (elementIdCall (some (.str nested)))).1 ↔
      Widget.repeatedBase? nested = none := by
  dsimp only
  rw [Scene.eval_elementIdCall, Scene.eval_elementIdCall]
  rcases ho : scene.opened with _ | ⟨i, rest⟩
  · exact absurd ho inside
  · simp only [Scene.elementId, ho]
    exact i.widget.elementId_twice nested

/-- The id that an element settles, evaluated twice in a row after the declaration of its variable, gives the
same text unless it is a repeated id that the template gives. -/
theorem eval_settled_twice {orig : Element} {inLoop : Bool} {n next : Nat} {a : AssignedId}
    (settles : a.Settles orig inLoop n next) {scene : Scene} (inside : scene.opened ≠ [])
    (literal : ∀ e, orig.value? "w-id" = some e → ∃ text, e = .str text) :
    let first := (scene.execAll feed a.preamble).eval feed a.absolute
    first.1 = (first.2.eval feed a.absolute).1 ↔
      ¬ ∃ text, orig.value? "w-id" = some (.str text) ∧ (Widget.repeatedBase? text).isSome = true := by
  cases settles with
  | @explicit e given =>
    obtain ⟨text, rfl⟩ := literal e given
    refine (eval_literal_twice inside text).trans ?_
    simp [given]
  | numbered repeated free =>
    cases repeated with
    | false =>
      refine (eval_literal_twice inside (toString n)).trans ?_
      exact iff_of_true (Widget.repeatedBase?_toString n) (by simp [free])
    | true =>
      -- the variable has one value, whatever the count was when it was declared
      rw [AssignedId.preamble_ready, AssignedId.absolute_ready, Scene.execAll, List.foldl_cons,
        List.foldl_nil, Scene.eval_declared]
      dsimp only
      rw [Scene.eval_declared]
      exact iff_of_true rfl (by simp [free])

/-- **When an element and its body slot have the same id.** Take an ordinary element with `w-body` that lies in
a widget and is not the root of one, whose `w-id`, if it has a value, is a literal. Its `id` attribute and the
slot of its body, evaluated one after the other after the statements before the element, give the same text,
whatever the counts of the widget were, exactly unless the template gives the element a repeated id. -/
theorem slot_id_eq_iff {el : Element} {u : CompileUnit} {inLoop : Bool} (plain : el.custom = false)
    (inside : u.widgets ≠ []) (outer : (Site.start el u inLoop).applyRules.isRoot = false)
    (marked : el.has "w-body" = true)
    (literal : ∀ e, el.value? "w-id" = some e → ∃ text, e = .str text) :
    ∃ id slot content,
      (Site.start el u inLoop).applyRules.el.value? "id" = some id ∧
      (Site.start el u inLoop).applyRules.appended = [Site.slotCall slot content] ∧
      ∀ (feed : Nat → String) (scene : Scene), scene.opened ≠ [] →
        let first := (scene.execAll feed (Site.start el u inLoop).applyRules.el.before).eval feed id
        first.1 = (first.2.eval feed slot).1 ↔
          ¬ ∃ text, el.value? "w-id" = some (.str text) ∧
            (Widget.repeatedBase? text).isSome = true := by
  obtain ⟨a, content, ha, happended⟩ := Site.applyRules_slot outer inside marked
  obtain ⟨hid, hbefore, hsettles⟩ := (Site.applyRules_ordinaryId outer plain).settled a ha
  refine ⟨a.absolute, a.absolute, content, by rw [Element.value?, hid]; rfl, happended, ?_⟩
  intro feed scene hscene
  rw [hbefore, Scene.execAll_append]
  refine eval_settled_twice hsettles ?_ literal
  exact fun hnil => hscene ((Scene.grows_execAll scene el.before).opened_eq_nil.mp hnil)

/-- The element and its slot agree on an id that is given and is a fixed one. -/
theorem slot_id_eq_of_fixed_id :
    let s := (Site.start
      { tag := "p", attributes := [⟨"w-id", some (.str "row")⟩, ⟨"w-body", none⟩] }
      { widgets := [⟨"div", .start, .ident "__widgetType", false, []⟩] } false).applyRules
    ∃ id slot content, s.el.value? "id" = some id ∧ s.appended = [Site.slotCall slot content] ∧
      ∀ (feed : Nat → String) (scene : Scene), scene.opened ≠ [] →
        let first := (scene.execAll feed s.el.before).eval feed id
        first.1 = (first.2.eval feed slot).1 := by
  obtain ⟨id, slot, content, hid, happended, hiff⟩ := @slot_id_eq_iff
    { tag := "p", attributes := [⟨"w-id", some (.str "row")⟩, ⟨"w-body", none⟩] }
    { widgets := [⟨"div", .start, .ident "__widgetType", false, []⟩] } false
    rfl (by simp) rfl rfl (fun e he => ⟨"row", (Option.some.inj he).symm⟩)
  refine ⟨id, slot, content, hid, happended, ?_⟩
  intro feed scene inside
  refine (hiff feed scene inside).mpr ?_
  rintro ⟨text, htext, hrepeated⟩
  obtain rfl : "row" = text := by injection Option.some.inj htext
  exact absurd hrepeated (by decide)

/-- An element with the repeated id `row[]` gets the id `w0-row[0]` in its attribute, and its slot `w0-row[1]`. -/
theorem slot_id_ne_of_repeated_id :
    let s := (Site.start
      { tag := "p", attributes := [⟨"w-id", some (.str "row[]")⟩, ⟨"w-body", none⟩] }
      { widgets := [⟨"div", .start, .ident "__widgetType", false, []⟩] } false).applyRules
    let scene : Scene := { opened := [⟨0, { id := "w0" }⟩] }
    ∃ id slot content, s.el.value? "id" = some id ∧ s.appended = [Site.slotCall slot content] ∧
      let first := (scene.execAll (fun _ => "") s.el.before).eval (fun _ => "") id
      first.1 = "w0-row[0]" ∧ (first.2.eval (fun _ => "") slot).1 = "w0-row[1]" :=
  ⟨elementIdCall (some (.str "row[]")), elementIdCall (some (.str "row[]")), Site.providedBody, rfl, rfl,
    by decide, by decide⟩

end WidgetTemplates.Rendering
