import WidgetTemplates.Proofs.Compile.DeliveredIds
import WidgetTemplates.Proofs.Compile.HandoverPairs
import WidgetTemplates.Proofs.Compile.Reported

/-!
# What becomes of the id that a template gives

The value of `w-id` is taken by one rule and used by others. On an element that is no root it is settled, whichever
attribute asks for it first. A root takes it before its own widget is opened and hands it over at once; it is not
settled, so a handler on a custom root asks for the id anew, gets a number, and hands over that one instead.

`depositedId?` reads the id off the call before a finished element, and `explicit_id_delivered` says where the value of
`w-id` goes and that this is the only case in which it gets lost.
-/

namespace WidgetTemplates.Compile

open Script (Expr Stmt)
open Template (Element Node)

/-- The id in the depositing call before an element. -/
def depositedId? (el : Element) : Option Expr :=
  match el.before.getLast? with
  | some (.expr (.call (.ident helper) (_ :: _ :: id :: _))) => if helper = "__widgetArgs" then some id else none
  | _ => none

namespace Site

variable {s : Site}

/-- In a widget a root hands over the value of its `w-id`. -/
theorem handedId_bindId (inside : s.inWidget = true) :
    s.bindId.handedOver.id = (s.el.value? "w-id").or s.handedOver.id := by
  rw [bindId, takeAttr_eq, Element.value?]
  rcases s.el.find? "w-id" with _ | ⟨name, value⟩
  · rfl
  · dsimp only
    rw [inWidget_drop, inside]
    rcases value with _ | e <;> rfl

/-- Without a value of `w-id`, a custom element has the next number settled. -/
theorem assigned_assign_of_free (unsettled : s.assigned = none) (free : s.el.value? "w-id" = none)
    (custom : s.el.custom = true) (repeated : Bool) :
    (s.assign repeated).assigned = some (.numbered s.unit.nextId repeated) := by
  rw [assign_eq unsettled]
  dsimp only
  rw [if_pos custom]
  rcases s.chooseId_cases repeated with ⟨e, hfound, -⟩ | ⟨-, h⟩
  · rw [Element.value?, hfound] at free
    cases free
  · rw [h]

end Site

namespace Turn

variable {t : Turn} {e : Expr}

/-- An id that is handed over stands in the call before the finished element. -/
theorem depositedId?_woven (handed : t.site.handedOver.id = some e) : depositedId? t.woven = some e := by
  obtain ⟨hbefore, -, -⟩ := t.site.statements_close t.inside
  rcases hh : t.site.handover with _ | h
  · rw [Site.handedOver, hh] at handed
    cases handed
  · rw [Site.handedOver, hh] at handed
    have hid : h.id = some e := handed
    have hfull : t.site.handed? = some h := by
      rw [Site.handed?, hh, Option.filter_some, Handover.isEmpty, hid]
      rfl
    rw [hfull] at hbefore
    have hlast : t.woven.before.getLast? = some (Site.depositStmt h) := by
      rw [woven, t.finished_eq_close, hbefore]
      exact List.getLast?_concat
    rw [depositedId?, hlast, Site.depositStmt, Handover.args, hid]
    rfl

/-- If no problem with `w-id` is reported, a widget encloses the element. -/
theorem enclosed_of_unreported (has : t.el.has "w-id" = true)
    (unreported : ⟨"W-ERR-BIND-SCOPE", "w-id can only be used within the scope of w-bind", t.unit.settings.filePath,
      t.el.location.line, t.el.location.column⟩ ∉ t.unit.reports t.placed) :
    t.unit.widgets ≠ [] := by
  intro hnone
  refine unreported (List.mem_map.mpr
    ⟨("W-ERR-BIND-SCOPE", "w-id can only be used within the scope of w-bind"), ?_, rfl⟩)
  have henclosed : t.placed.enclosed = false := by rw [placed, enclosed, hnone]; rfl
  have hel : t.placed.el.has "w-id" = true := has
  simp [findings, hel, henclosed]

/-- A custom element that is no root hands over the value of `w-id`, whatever else asks for the id. -/
theorem handedId_of_loose (loose : t.bound = false) (custom : t.el.custom = true) (inside : t.unit.widgets ≠ [])
    (given : t.el.value? "w-id" = some e) : t.site.handedOver.id = some e := by
  have hentered := t.inWidget_entered_of_loose loose inside
  have hsome : t.site.handedOver.id.isSome = true := by
    rw [isSome_handedId_site loose hentered, custom, Element.has_of_value? given]
    rfl
  obtain ⟨id, hid⟩ := Option.isSome_iff_exists.mp hsome
  -- what is handed over is the settled id, which is chosen from the value
  obtain ⟨a, ha, rfl⟩ := handsSettled_site loose id hid
  have hgiven : t.entered.el.value? "w-id" = some e := by rw [Element.value?, t.find?_id_entered loose]; exact given
  have hchosen := (t.choosesId_site hentered).settled a ha
  rw [hgiven] at hchosen
  generalize t.site.unit.nextId = next at hchosen
  cases hchosen with
  | explicit given forms =>
    obtain rfl := Option.some.inj given
    rw [hid, forms.1]
  | numbered free => cases free

/-- An ordinary element that is no root gets the value of `w-id` as its id, whatever else asks for the id. -/
theorem find?_id_of_value? (loose : t.bound = false) (plain : t.el.custom = false) (inside : t.unit.widgets ≠ [])
    (given : t.el.value? "w-id" = some e) : t.woven.find? "id" = some ⟨"id", some (elementIdCall (some e))⟩ := by
  have hasks := t.settled_site (t.inWidget_entered_of_loose loose inside)
  rw [asksId, if_neg (by simp [loose]), Element.has_of_value? given] at hasks
  obtain ⟨a, ha⟩ := Option.isSome_iff_exists.mp hasks
  obtain ⟨hfind, -, hsettles⟩ := (Site.applyRules_ordinaryId (t.isRoot_site.trans loose) plain).settled a ha
  rw [(t.woven_of_loose loose).1, site, hfind]
  generalize (Site.start t.el t.unit t.inLoop).applyRules.unit.nextId = next at hsettles
  cases hsettles with
  | explicit given' =>
    obtain rfl := Option.some.inj (given.symm.trans given')
    rfl
  | numbered repeated free => cases given.symm.trans free

/-- A root hands over the value of its `w-id` before its own widget is opened. -/
theorem handedId_entered (bound : t.bound = true) (inside : t.unit.widgets ≠ []) :
    t.entered.handedOver.id = t.el.value? "w-id" := by
  rcases (Site.start t.el t.unit t.inLoop).bind_cases with ⟨-, h⟩ | ⟨a, -, ⟨-, p, h⟩ | ⟨widgetType, u, ht, h⟩⟩
  · rw [Turn.bound, h] at bound
    cases bound
  · rw [Turn.bound, h] at bound
    cases bound
  · let typed : Site := { (Site.start t.el t.unit t.inLoop).drop "w-bind" with unit := u }
    have hinside : typed.inWidget = true := by
      rw [Site.inWidget_iff, Site.widgets_widgetTypeOf? ht]
      exact inside
    have hfind : typed.el.find? "w-id" = t.el.find? "w-id" := Element.find?_remove_ne (by decide)
    have hvalue : typed.bindId.handedOver.id = (t.el.value? "w-id").or none := by
      rw [Site.handedId_bindId hinside, Element.value?, hfind]
      rfl
    rw [entered, h]
    exact hvalue.trans (Option.or_none)

/-- The rules of a root lie in its widget. -/
theorem inWidget_named_of_bound (bound : t.bound = true) : t.named.inWidget = true := by
  rw [t.inWidget_eq_of_mem_stages (by simp [stages]), bound, Bool.true_or]

/-- A root that hands over no handlers hands over the value of its `w-id`. -/
theorem handedId_of_bound (bound : t.bound = true) (inside : t.unit.widgets ≠ [])
    (quiet : handsEvents t.el = false) : t.site.handedOver.id = t.el.value? "w-id" := by
  rw [t.handedId_site]
  rcases Site.handleEvents_inside (inWidget_named_of_bound bound) with ⟨hasks, -⟩ | ⟨-, h⟩
  · rw [t.handsEvents_named, quiet] at hasks
    cases hasks
  · rw [h, Site.handedId_heard, t.named_of_bound bound]
    exact handedId_entered bound inside

/-- After a root has listened to its events no id is settled and no number taken, but its `w-id` is gone. -/
theorem heard_of_bound (bound : t.bound = true) (distinct : t.el.names.Nodup) :
    let heard := t.named.eventNames.foldl Site.handleEvent t.named
    heard.assigned = none ∧ heard.unit.nextId = t.unit.nextId ∧ heard.el.value? "w-id" = none ∧
      heard.inLoop = t.inLoop ∧ heard.el.custom = t.el.custom := by
  intro heard
  have hinside := inWidget_named_of_bound bound
  have hnamed : t.named = t.entered := t.named_of_bound bound
  have events := t.named.forall_mem_eventNames
  obtain ⟨hroot, -, hcustom, hassigned⟩ := Site.foldl_handleEvent_frame events t.named
  have hstart : Site.Edits t.el true (Site.start t.el t.unit t.inLoop) t.named := t.edits_to_stage (by simp [stages])
  have hedits : Site.Edits t.el true t.named heard :=
    Site.foldl_handleEvent_edits events (hnamed ▸ t.honest_entered) hinside
  have hnone : heard.assigned = none := by
    rw [hassigned, hnamed]
    exact (Site.start t.el t.unit t.inLoop).assigned_bind.1
  have hchooses : Site.ChoosesId t.given? t.unit.nextId heard :=
    hedits.choosesId hroot hinside (hnamed ▸ t.choosesId_entered distinct)
  obtain ⟨hnext, hgiven⟩ := hchooses.unsettled hnone
  rw [given?, if_pos bound] at hgiven
  exact ⟨hnone, hnext, hgiven, congrArg Site.Background.inLoop (hedits.background.trans hstart.background),
    hcustom.trans hstart.custom⟩

/-- A root that hands over handlers hands over a number, for which its `w-id` has no part. -/
theorem handedId_of_listening (bound : t.bound = true) (listens : handsEvents t.el = true)
    (distinct : t.el.names.Nodup) :
    t.site.handedOver.id = some (AssignedId.numbered t.unit.nextId t.inLoop).nested := by
  rw [t.handedId_site]
  rcases Site.handleEvents_inside (inWidget_named_of_bound bound) with ⟨-, h⟩ | ⟨hquiet, -⟩
  · obtain ⟨hnone, hnext, hfree, hloop, hcustom⟩ := heard_of_bound bound distinct
    have hsettled := Site.assigned_assign_of_free hnone hfree
      (hcustom.trans (Bool.and_eq_true_iff.mp listens).1) t.inLoop
    rw [h]
    refine congrArg (some <| AssignedId.nested ·) ?_
    rw [Site.id_of_settled (hloop ▸ hsettled), hnext, hloop]
  · rw [t.handsEvents_named, listens] at hquiet
    cases hquiet

end Turn

/-! ## Forests -/

/-- **Where the id goes that a template gives.** Weaving makes each element of a forest in a turn of its own and reports
what is wrong with it. Take an element whose `w-id` has a value, and suppose that no problem with `w-id` is reported.
An ordinary element that is no root gets the value as its `id`. A custom element and a root have it in the call before
them, whatever else they carry, with one exception: a custom root with a handler has a number there. -/
theorem explicit_id_delivered (u : CompileUnit) (nodes : List Node) :
    elementsAll nodes = (turnsAll false u nodes).map Turn.el ∧
      elementsAll (weave u nodes).1 = (turnsAll false u nodes).map Turn.woven ∧
      ∀ t ∈ turnsAll false u nodes, t.site.unit.diagnostics = t.unit.diagnostics ++ t.unit.reports t.placed ∧
        ∀ e, t.el.value? "w-id" = some e →
          ⟨"W-ERR-BIND-SCOPE", "w-id can only be used within the scope of w-bind", t.unit.settings.filePath,
            t.el.location.line, t.el.location.column⟩ ∉ t.unit.reports t.placed →
          (t.el.custom = false → t.bound = false →
            t.woven.find? "id" = some ⟨"id", some (elementIdCall (some e))⟩) ∧
          (t.el.custom = true ∨ t.bound = true → ¬ (t.bound = true ∧ handsEvents t.el = true) →
            depositedId? t.woven = some e) ∧
          (t.bound = true → handsEvents t.el = true → t.el.names.Nodup →
            depositedId? t.woven = some (AssignedId.numbered t.unit.nextId t.inLoop).nested) := by
  refine ⟨(map_el_turnsAll false u nodes).symm, elementsAll_weaveForest false u nodes, ?_⟩
  refine fun t _ => ⟨t.diagnostics_site, fun e given unreported => ?_⟩
  have inside := Turn.enclosed_of_unreported (Element.has_of_value? given) unreported
  refine ⟨fun plain loose => Turn.find?_id_of_value? loose plain inside given, ?_, ?_⟩
  · intro deposits quiet
    refine Turn.depositedId?_woven ?_
    rcases hb : t.bound with _ | _
    · exact Turn.handedId_of_loose hb (deposits.resolve_right (by simp [hb])) inside given
    · exact (Turn.handedId_of_bound hb inside (by simpa [hb] using quiet)).trans given
  · exact fun bound listens distinct => Turn.depositedId?_woven (Turn.handedId_of_listening bound listens distinct)

/-- In a root, a custom element that listens and is the place of the body, and a root of its own that extends another
widget: both calls have the ids that are given. -/
theorem explicit_id_delivered_inside_root :
    let nodes : List Node :=
      [.element { tag := "div", attributes := [⟨"w-bind", some (.str "./w")⟩] }
        [.element { tag := "app-x", custom := true
                    attributes := [⟨"w-onclick", some (.str "go")⟩, ⟨"w-body", none⟩, ⟨"w-id", some (.str "a")⟩] } [],
          .element { tag := "app-y", custom := true
                     attributes := [⟨"w-bind", some (.str "./y")⟩, ⟨"w-extend", some (.str "./z")⟩,
                       ⟨"w-id", some (.str "b")⟩] } []]]
    ∃ root first second, turnsAll false {} nodes = [root, first, second] ∧
      depositedId? first.woven = some (.str "a") ∧ depositedId? second.woven = some (.str "b") := by
  intro nodes
  obtain ⟨-, -, hdelivered⟩ := explicit_id_delivered {} nodes
  obtain ⟨root, first, second, hturns, hfirst, hsecond⟩ : ∃ root first second,
      turnsAll false {} nodes = [root, first, second] ∧
        (first.el.value? "w-id" = some (.str "a") ∧ first.unit.reports first.placed = [] ∧ first.el.custom = true ∧
          first.bound = false) ∧
        second.el.value? "w-id" = some (.str "b") ∧ second.unit.reports second.placed = [] ∧
          second.el.custom = true ∧ handsEvents second.el = false :=
    ⟨_, _, _, rfl, ⟨rfl, rfl, rfl, rfl⟩, rfl, rfl, rfl, rfl⟩
  obtain ⟨hgiven, hreports, hcustom, hloose⟩ := hfirst
  obtain ⟨hgiven', hreports', hcustom', hquiet⟩ := hsecond
  have hone := ((hdelivered first (by simp [hturns])).2 _ hgiven (by simp [hreports])).2.1
  have htwo := ((hdelivered second (by simp [hturns])).2 _ hgiven' (by simp [hreports'])).2.1
  exact ⟨root, first, second, hturns, hone (.inl hcustom) (by simp [hloose]), htwo (.inl hcustom') (by simp [hquiet])⟩

/-- A custom root with an id and a handler in another root: nothing is reported, and the call before it has a number in
place of the id. -/
theorem explicit_id_lost_of_listening_root :
    let nodes : List Node :=
      [.element { tag := "div", attributes := [⟨"w-bind", some (.str "./w")⟩] }
        [.element { tag := "app-x", custom := true
                    attributes := [⟨"w-bind", some (.str "./c")⟩, ⟨"w-id", some (.str "e")⟩,
                      ⟨"w-onclick", some (.str "go")⟩] } []]]
    (weave {} nodes).2.diagnostics = [] ∧
      ∃ root app, turnsAll false {} nodes = [root, app] ∧ app.el.value? "w-id" = some (.str "e") ∧
        app.el.custom = true ∧ app.unit.reports app.placed = [] ∧ depositedId? app.woven = some (.str "0") ∧
          depositedId? app.woven ≠ some (.str "e") := by
  intro nodes
  obtain ⟨root, app, hturns, hgiven, hcustom, hreports, hid⟩ : ∃ root app, turnsAll false {} nodes = [root, app] ∧
      app.el.value? "w-id" = some (.str "e") ∧ app.el.custom = true ∧ app.unit.reports app.placed = [] ∧
        depositedId? app.woven = some (.str "0") := ⟨_, _, rfl, rfl, rfl, rfl, rfl⟩
  exact ⟨rfl, root, app, hturns, hgiven, hcustom, hreports, hid, by simp [hid]⟩

end WidgetTemplates.Compile
