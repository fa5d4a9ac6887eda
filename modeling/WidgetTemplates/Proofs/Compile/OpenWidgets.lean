import WidgetTemplates.Proofs.Compile.Taught
import WidgetTemplates.Proofs.Compile.Turns

/-!
# The discipline of the open widgets

A widget is opened by the rule for `w-bind`, which may give up, and closed when the children of its root have been
woven. In between lie the other rules and the whole forest below the root. `NestedTurn` keeps the turn of an element
together with those of the elements around it, so that the innermost open widget can be compared with the nearest
bound element (`Innermost`).

The main result is `weaving_keeps_open_widgets`: whatever is open when a forest is woven, every widget is closed by
the element that has opened it, and each rule finds the widget of the nearest bound element on top.
-/

namespace WidgetTemplates.Compile

open Script (Expr)
open Template (Element Node)

/-! ## Single edits -/

namespace Site

variable {orig : Element} {late : Bool} {s s' : Site}

/-- Edits that do not make the element a root leave the open widgets alone, except for what the innermost one
learns. -/
theorem Edits.sameStack (h : Edits orig late s s') (kept : s'.isRoot = s.isRoot) :
    SameStack s.unit.widgets s'.unit.widgets := by
  refine h.keeps_of_isRoot (p := fun t => SameStack s.unit.widgets t.unit.widgets) kept ?_ (.refl _)
  intro t t' step stays hstack
  rcases step.stack with ⟨-, hstep⟩ | ⟨houter, hroot, -⟩
  · exact hstack.trans hstep
  · exact absurd (hroot.symm.trans (stays.trans houter)) (by simp)

/-- Declaring a variable is no mistake in the pairing of calls. -/
theorem misuse_declare (u : CompileUnit) (name code : String) : (u.declare name code).misuse = u.misuse := by
  obtain ⟨ds, h⟩ := declare_frame u name code
  rw [h]

/-- No rule pairs its calls wrongly. -/
theorem Edit.misuse (h : Edit orig late s s') : s'.unit.misuse = s.unit.misuse := by
  have hmodify : ∀ (u : CompileUnit) (f : OpenWidget → OpenWidget), (u.modifyContaining f).misuse = u.misuse := by
    intro u f
    rw [CompileUnit.modifyContaining]
    split <;> rfl
  cases h with
  | declareType path =>
    obtain ⟨ds, h⟩ := widgetType_frame s.unit path
    rw [Site.declareType, h]
  | enter =>
    have hid : s.bindId.unit.misuse = s.unit.misuse := by
      rcases s.bindId_cases with hs | ⟨-, hs⟩ | ⟨-, e, hs⟩ <;> rw [hs] <;> rfl
    exact hid
  | assign repeated =>
    rcases s.unit_assign repeated with h | h
    · rw [h]
    · rw [h]
      rfl
  | ensureVariable => rw [unit_ensureVariable]
  | listen name type handler =>
    unfold Site.listen
    split
    · rfl
    · exact hmodify _ _
  | announce => exact hmodify _ _
  | slot => exact misuse_declare s.unit _ _
  | _ => rfl

/-- The edits at an element make no mistake in the pairing of calls. -/
theorem Edits.misuse (h : Edits orig late s s') : s'.unit.misuse = s.unit.misuse :=
  h.keeps (p := fun t => t.unit.misuse = s.unit.misuse) (fun _ _ step ih => step.misuse.trans ih) rfl

/-- Surrounding a custom tag makes no mistake in the pairing of calls. -/
theorem misuse_surround (s : Site) : s.surround.unit.misuse = s.unit.misuse := by
  rcases s.surround_cases with ⟨hs, -⟩ | ⟨h, -, -, hs⟩
  · rw [hs]
  · rw [hs]
    exact (misuse_declare _ _ _).trans (misuse_declare s.unit _ _)

/-- Closing a widget that is open is no mistake. -/
theorem misuse_leave {w : OpenWidget} {rest : List OpenWidget} (opened : s.unit.widgets = w :: rest) :
    s.leave.unit.misuse = s.unit.misuse := by
  rw [leave_eq opened]
  exact misuse_declare _ _ _

end Site

/-! ## The turn of one element -/

namespace Turn

variable (t : Turn)

/-- The site of the element when the rule for `w-bind` has been applied. -/
def entered : Site := (Site.start t.el t.unit t.inLoop).bind

/-- The site of the element when the rule for `w-id` has been applied, which a root does without. -/
def named : Site := if t.entered.isRoot then t.entered else t.entered.handleId

/-- The sites of the element while the other rules run: before the first of them and after each. -/
def stages : List Site :=
  [t.entered, t.named, t.named.handleEvents, t.named.handleEvents.handleExtend,
    t.named.handleEvents.handleExtend.handleFor, t.site]

/-- The site of the element after its children, with what it hands over. -/
def handed : Site := { t.site with unit := t.inside }.surround

/-- The widget `w` is the one that the element opens, whatever it has learned since. -/
def Opens (w : OpenWidget) : Prop :=
  w.tag = t.el.tag ∧ w.location = t.el.location ∧
    ∃ a u, t.el.find? "w-bind" = some a ∧ t.unit.widgetTypeOf? a.value = some (w.widgetType, u)

/-- The entered site is one of the stages of a turn. -/
theorem entered_mem_stages : t.entered ∈ t.stages := List.mem_cons_self

/-- The site at the children is one of the stages of a turn. -/
theorem site_mem_stages : t.site ∈ t.stages := by simp [stages]

/-- An element that is not bound leaves the open widgets alone when it tries to open one. -/
theorem widgets_entered_of_loose (loose : t.bound = false) : t.entered.unit.widgets = t.unit.widgets := by
  rcases (Site.start t.el t.unit t.inLoop).bind_cases with ⟨-, h⟩ | ⟨a, -, ⟨-, p, h⟩ | ⟨widgetType, u, -, h⟩⟩
  · rw [entered, h]
    rfl
  · rw [entered, h]
    rfl
  · rw [bound, h] at loose
    cases loose

/-- So its rules find the widget that it lies in. -/
theorem inWidget_entered_of_loose (loose : t.bound = false) (inside : t.unit.widgets ≠ []) :
    t.entered.inWidget = true := by
  rw [Site.inWidget_iff, t.widgets_entered_of_loose loose]
  exact inside

/-- A bound element opens a widget of its own type on top of those that are open. -/
theorem widgets_entered_of_bound (bound : t.bound = true) :
    ∃ a widgetType u, t.el.find? "w-bind" = some a ∧ t.unit.widgetTypeOf? a.value = some (widgetType, u) ∧
      t.entered.unit.widgets = { tag := t.el.tag, location := t.el.location, widgetType } :: t.unit.widgets := by
  rcases (Site.start t.el t.unit t.inLoop).bind_cases with ⟨-, h⟩ | ⟨a, ha, ⟨-, p, h⟩ | ⟨widgetType, u, ht, h⟩⟩
  · rw [Turn.bound, h] at bound
    cases bound
  · rw [Turn.bound, h] at bound
    cases bound
  · refine ⟨a, widgetType, u, ha, ht, ?_⟩
    let s : Site := { (Site.start t.el t.unit t.inLoop).drop "w-bind" with unit := u }
    have htag : s.bindId.el.tag = t.el.tag := congrArg Site.Background.tag s.background_bindId
    have hlocation : s.bindId.el.location = t.el.location := congrArg Site.Background.location s.background_bindId
    rw [entered, h, Site.enter, CompileUnit.openWidget, s.bindId_frame.2.2.2.1, htag, hlocation,
      Site.widgets_widgetTypeOf? ht]
    rfl

/-- The rule for `w-bind` edits the element. -/
theorem entered_edits {late : Bool} : Site.Edits t.el late (Site.start t.el t.unit t.inLoop) t.entered :=
  Site.bind_edits (Site.honest_start t.el t.unit t.inLoop) rfl rfl

/-- The widget attributes that the rule for `w-bind` leaves have been there from the start. -/
theorem honest_entered : Site.Honest t.el t.entered :=
  (t.entered_edits : Site.Edits t.el false _ _).honest (Site.honest_start t.el t.unit t.inLoop)

/-- Without a widget of its own, an element has its id handled next. -/
theorem named_of_loose (loose : t.bound = false) : t.named = t.entered.handleId :=
  if_neg (by rw [show t.entered.isRoot = false from loose]; decide)

/-- With a widget of its own, an element has its id settled by that. -/
theorem named_of_bound (bound : t.bound = true) : t.named = t.entered := if_pos bound

/-- Naming an element consists of edits. -/
theorem named_edits : Site.Edits t.el true t.entered t.named := by
  rw [named]
  rcases hr : t.entered.isRoot with _ | _
  · exact Site.handleId_edits hr
  · exact .refl

/-- The named site is a root exactly if the element opens a widget. -/
theorem isRoot_named : t.named.isRoot = t.bound := by
  rw [named]
  split
  · rfl
  · exact t.entered.isRoot_handleId

/-- The rules after the one for `w-bind` edit the element and make it no root. -/
theorem edits_of_mem_stages {s : Site} (h : s ∈ t.stages) :
    Site.Edits t.el true t.entered s ∧ s.isRoot = t.bound := by
  have hnamed : Site.Edits t.el true t.entered t.named := t.named_edits
  have hheard : Site.Edits t.el true t.entered t.named.handleEvents :=
    hnamed.trans (Site.handleEvents_edits (hnamed.honest t.honest_entered))
  have hheard' := t.named.isRoot_handleEvents.trans t.isRoot_named
  have hextended : Site.Edits t.el true t.entered t.named.handleEvents.handleExtend :=
    hheard.trans (Site.handleExtend_edits (hheard.honest t.honest_entered))
  have hextended' := t.named.handleEvents.isRoot_handleExtend.trans hheard'
  have hlabelled : Site.Edits t.el true t.entered t.named.handleEvents.handleExtend.handleFor :=
    hextended.trans (Site.handleFor_edits (hextended.honest t.honest_entered))
  have hlabelled' := t.named.handleEvents.handleExtend.isRoot_handleFor.trans hextended'
  have hlast : Site.Edits t.el true t.entered t.site :=
    hlabelled.trans (Site.start_late t.el t.unit t.inLoop)
  simp only [stages, List.mem_cons, List.not_mem_nil, or_false] at h
  rcases h with rfl | rfl | rfl | rfl | rfl | rfl
  · exact ⟨.refl, rfl⟩
  · exact ⟨hnamed, t.isRoot_named⟩
  · exact ⟨hheard, hheard'⟩
  · exact ⟨hextended, hextended'⟩
  · exact ⟨hlabelled, hlabelled'⟩
  · exact ⟨hlast, t.isRoot_site⟩

/-- What the rules do up to one of these sites. -/
theorem edits_to_stage {s : Site} (h : s ∈ t.stages) : Site.Edits t.el true (Site.start t.el t.unit t.inLoop) s :=
  t.entered_edits.trans (t.edits_of_mem_stages h).1

/-- The rules after the one for `w-bind` open no widget. -/
theorem sameStack_of_mem_stages {s : Site} (h : s ∈ t.stages) :
    SameStack t.entered.unit.widgets s.unit.widgets :=
  have ⟨edits, hroot⟩ := t.edits_of_mem_stages h
  Site.Edits.sameStack edits hroot

/-- The widget that an element opens keeps its place in a stack that differs only in what is learned. -/
theorem Opens.of_sameStack {w : OpenWidget} {rest ws : List OpenWidget} (opens : t.Opens w)
    (h : SameStack (w :: rest) ws) : ∃ w', ws = w' :: rest ∧ t.Opens w' := by
  obtain ⟨w', rfl, htag, hlocation, htype⟩ := h.of_cons
  exact ⟨w', rfl, htag.trans opens.1, hlocation.trans opens.2.1, by rw [htype]; exact opens.2.2⟩

/-- While the rules run for a bound element, its own widget lies on top of those that were open when it had its
turn. -/
theorem opens_of_mem_stages (bound : t.bound = true) {s : Site} (h : s ∈ t.stages) :
    ∃ w, s.unit.widgets = w :: t.unit.widgets ∧ t.Opens w := by
  obtain ⟨a, widgetType, u, ha, ht, hentered⟩ := t.widgets_entered_of_bound bound
  have hstack := t.sameStack_of_mem_stages h
  rw [hentered] at hstack
  exact Opens.of_sameStack t ⟨rfl, rfl, a, u, ha, ht⟩ hstack

/-! ### Handing over -/

/-- Handing over in the unit after the children puts statements around the element and keeps everything else. -/
theorem surround_inside {s s' : Site} {u : CompileUnit} (h : s' = ({ s with unit := u } : Site).surround) :
    (s'.isRoot = s.isRoot ∧ s'.unit.widgets = u.widgets ∧ s'.appended = s.appended) ∧
      s'.el.attributes = s.el.attributes ∧ s'.el.widget = s.el.widget ∧ s'.el.location = s.el.location ∧
        s.el.before ⊆ s'.el.before ∧ s'.unit.misuse = u.misuse := by
  subst h
  let after : Site := { s with unit := u }
  obtain ⟨calls, hbefore⟩ := after.before_surround
  have hsubset : s.el.before ⊆ after.surround.el.before := by
    rw [hbefore]
    exact List.subset_append_left _ _
  exact ⟨after.surround_frame, after.surround_el.1, after.surround_el.2, after.kind_surround.2.2, hsubset,
    after.misuse_surround⟩

/-- What is handed over at an element, written out. -/
theorem handed_eq : t.handed = ({ t.site with unit := t.inside } : Site).surround := rfl

theorem isRoot_handed : t.handed.isRoot = t.bound := (surround_inside t.handed_eq).1.1.trans t.isRoot_site

theorem widgets_handed : t.handed.unit.widgets = t.inside.widgets := (surround_inside t.handed_eq).1.2.1

theorem appended_handed : t.handed.appended = t.site.appended := (surround_inside t.handed_eq).1.2.2

theorem attributes_handed : t.handed.el.attributes = t.site.el.attributes := (surround_inside t.handed_eq).2.1

theorem widget_handed : t.handed.el.widget = t.el.widget :=
  (surround_inside t.handed_eq).2.2.1.trans t.site_edits.widget

theorem location_handed : t.handed.el.location = t.el.location :=
  (surround_inside t.handed_eq).2.2.2.1.trans t.site_edits.location

/-- The statements before an element stay when what it hands over is put around it. -/
theorem before_handed : t.site.el.before ⊆ t.handed.el.before := (surround_inside t.handed_eq).2.2.2.2.1

theorem misuse_handed : t.handed.unit.misuse = t.inside.misuse := (surround_inside t.handed_eq).2.2.2.2.2

/-- A bound element closes a widget in the end, and no other element does. -/
theorem finished_handed : t.finished = if t.bound then t.handed.leave else t.handed :=
  congrArg (fun b : Bool => if b then t.handed.leave else t.handed) t.isRoot_handed

/-- Without a widget of its own an element is finished when it has handed over. -/
theorem finished_eq_handed (loose : t.bound = false) : t.finished = t.handed := by
  rw [finished_handed, if_neg (by simp [loose])]

/-- With a widget of its own an element closes that at its end. -/
theorem finished_eq_leave (bound : t.bound = true) : t.finished = t.handed.leave := by
  rw [finished_handed, if_pos bound]

/-- The widget that a bound element closes is the one that it has opened. -/
theorem finished_eq :
    if t.bound then
      t.finished = t.handed.leave ∧ ∃ w, t.handed.unit.widgets = w :: t.unit.widgets ∧ t.Opens w
    else t.finished = t.handed := by
  have hinside : SameStack t.site.unit.widgets t.inside.widgets :=
    (weaveForest_woven t.inLoop t.site.unit t.children).stack
  rw [finished_handed]
  split
  · next hbound =>
    obtain ⟨w, hw, hopens⟩ := t.opens_of_mem_stages hbound t.site_mem_stages
    rw [hw] at hinside
    obtain ⟨w', hw', hopens'⟩ := Opens.of_sameStack t hopens hinside
    exact ⟨rfl, w', t.widgets_handed.trans hw', hopens'⟩
  · rfl

/-- From the turn of an element to the end of its children no call is paired wrongly if none is in between. -/
theorem misuse_finished (inside : t.inside.misuse = t.site.unit.misuse) :
    t.finished.unit.misuse = t.unit.misuse := by
  have hhanded : t.handed.unit.misuse = t.unit.misuse := t.misuse_handed.trans (inside.trans t.site_edits.misuse)
  have hfinished := t.finished_eq
  split at hfinished
  · obtain ⟨heq, w, hw, -⟩ := hfinished
    rw [heq, Site.misuse_leave hw, hhanded]
  · rw [hfinished, hhanded]

end Turn

/-! ## The turns of a forest -/

/-- The turn of an element together with those of the elements around it, innermost first. -/
structure NestedTurn where
  turn : Turn
  above : List Turn

namespace NestedTurn

/-- The turn of the nearest bound element, counting the element itself. -/
def root? (n : NestedTurn) : Option Turn := (n.turn :: n.above).find? Turn.bound

end NestedTurn

mutual

/-- The turns of a node in document order, the node standing below the elements of the turns `above`. -/
def nestedTurns (above : List Turn) (inLoop : Bool) (u : CompileUnit) : Node → List NestedTurn
  | .element el children =>
    let t : Turn := ⟨el, children, u, inLoop⟩
    ⟨t, above⟩ :: nestedTurnsAll (t :: above) inLoop t.site.unit children
  | .loop _ _ body _ => nestedTurnsAll above true u body
  | _ => []

/-- The turns of a forest in document order, the forest standing below the elements of the turns `above`. -/
def nestedTurnsAll (above : List Turn) (inLoop : Bool) (u : CompileUnit) : List Node → List NestedTurn
  | [] => []
  | node :: rest =>
    nestedTurns above inLoop u node ++ nestedTurnsAll above inLoop (weaveNode inLoop u node).2 rest

end

/-- The turns are the same with and without those around them. -/
theorem map_turn_nestedTurnsAll (above : List Turn) (inLoop : Bool) (u : CompileUnit) (nodes : List Node) :
    (nestedTurnsAll above inLoop u nodes).map NestedTurn.turn = turnsAll inLoop u nodes := by
  induction nodes using Template.forestInduction generalizing above inLoop u with
  | nil => rfl
  | element el children rest inside after =>
    rw [nestedTurnsAll, nestedTurns, turnsAll, turns, List.map_append, List.map_cons, inside, after]
  | loop item source body location rest inside after =>
    rw [nestedTurnsAll, nestedTurns, turnsAll, turns, List.map_append, inside, after]
  | _ =>
    rename_i after
    exact after above inLoop u

/-- The innermost of the open widgets `ws` is that of the root `root?`, on top of the widgets that were open when the
root had its turn. Without a root it is the one that was innermost among `outer`, and those below it are the same. -/
def Innermost (outer : List OpenWidget) (root? : Option Turn) (ws : List OpenWidget) : Prop :=
  match root? with
  | some r => ∃ w, ws = w :: r.unit.widgets ∧ r.Opens w
  | none => SameStack outer ws

/-- The innermost widget is the same in stacks that differ only in what is learned. -/
theorem Innermost.of_sameStack {outer ws ws' : List OpenWidget} {root? : Option Turn}
    (h : Innermost outer root? ws) (same : SameStack ws ws') : Innermost outer root? ws' := by
  cases root? with
  | none => exact SameStack.trans h same
  | some r =>
    obtain ⟨w, rfl, hopens⟩ := h
    exact Turn.Opens.of_sameStack r hopens same

/-- While the rules run for an element, the innermost widget is that of the nearest bound element. -/
theorem Innermost.of_mem_stages {outer : List OpenWidget} {n : NestedTurn} {s : Site}
    (h : Innermost outer (n.above.find? Turn.bound) n.turn.unit.widgets) (stage : s ∈ n.turn.stages) :
    Innermost outer n.root? s.unit.widgets := by
  rcases hb : n.turn.bound with _ | _
  · rw [NestedTurn.root?, List.find?_cons_of_neg (by simp [hb])]
    have hstack := n.turn.sameStack_of_mem_stages stage
    rw [n.turn.widgets_entered_of_loose hb] at hstack
    exact h.of_sameStack hstack
  · rw [NestedTurn.root?, List.find?_cons_of_pos hb]
    exact n.turn.opens_of_mem_stages hb stage

/-- When an element of a forest has its turn, the innermost widget is that of the nearest bound element around it. -/
theorem innermost_of_mem_nestedTurnsAll {outer : List OpenWidget} {above : List Turn} {inLoop : Bool}
    {u : CompileUnit} {nodes : List Node} (start : Innermost outer (above.find? Turn.bound) u.widgets)
    {n : NestedTurn} (h : n ∈ nestedTurnsAll above inLoop u nodes) :
    Innermost outer (n.above.find? Turn.bound) n.turn.unit.widgets := by
  -- what is woven before the turn leaves the widgets as they were
  have hnode : ∀ node, SameStack u.widgets (weaveNode inLoop u node).2.widgets :=
    fun node => (weaveForest_woven inLoop u [node]).stack
  induction nodes using Template.forestInduction generalizing above inLoop u with
  | nil => cases h
  | element el children rest inside after =>
    rw [nestedTurnsAll, nestedTurns] at h
    let t : Turn := ⟨el, children, u, inLoop⟩
    have hsite : Innermost outer ((t :: above).find? Turn.bound) t.site.unit.widgets :=
      Innermost.of_mem_stages (n := ⟨t, above⟩) start t.site_mem_stages
    rcases List.mem_append.mp h with h | h
    · rcases List.mem_cons.mp h with rfl | h
      · exact start
      · exact inside hsite h fun node => (weaveForest_woven inLoop t.site.unit [node]).stack
    · exact after (start.of_sameStack (hnode _)) h
        fun node => (weaveForest_woven inLoop _ [node]).stack
  | loop item source body location rest inside after =>
    rcases List.mem_append.mp h with h | h
    · exact inside start h fun node => (weaveForest_woven true u [node]).stack
    · exact after (start.of_sameStack (hnode _)) h
        fun node => (weaveForest_woven inLoop _ [node]).stack
  | _ =>
    rename_i after
    exact after start h hnode

/-- Weaving a forest pairs its calls rightly. -/
theorem misuse_weaveForest (inLoop : Bool) (u : CompileUnit) (nodes : List Node) :
    (weaveForest inLoop u nodes).2.misuse = u.misuse := by
  induction nodes using Template.forestInduction generalizing inLoop u with
  | nil => rfl
  | element el children rest inside after =>
    let t : Turn := ⟨el, children, u, inLoop⟩
    exact (after inLoop t.finished.unit).trans (t.misuse_finished (inside inLoop t.site.unit))
  | loop item source body location rest inside after => exact (after inLoop _).trans (inside true u)
  | _ =>
    rename_i after
    exact after inLoop u

/-- **Weaving keeps to the discipline of the open widgets**, whatever is open at its start. The same widgets are open
afterwards, and only the innermost one has learned something. After the rule for `w-bind` each rule finds and leaves
the widget of the nearest bound element on top. A bound element closes the widget that it has opened, no other element
closes one, and no mistake is noted. A template that is woven with no widget open ends with none. -/
theorem weaving_keeps_open_widgets (inLoop : Bool) (u : CompileUnit) (nodes : List Node) :
    (SameStack u.widgets (weaveForest inLoop u nodes).2.widgets ∧
        (weaveForest inLoop u nodes).2.misuse = u.misuse) ∧
      (nestedTurnsAll [] inLoop u nodes).map (·.turn.el) = elementsAll nodes ∧
      (∀ n ∈ nestedTurnsAll [] inLoop u nodes,
        (∀ s ∈ n.turn.stages, Innermost u.widgets n.root? s.unit.widgets) ∧
          if n.turn.bound then
            n.turn.finished = n.turn.handed.leave ∧
              ∃ w, n.turn.handed.unit.widgets = w :: n.turn.unit.widgets ∧ n.turn.Opens w
          else n.turn.finished = n.turn.handed) ∧
      (u.widgets = [] → (weave u nodes).2.widgets = [] ∧ (weave u nodes).2.misuse = u.misuse) := by
  refine ⟨⟨(weaveForest_woven inLoop u nodes).stack, misuse_weaveForest inLoop u nodes⟩, ?_, ?_, ?_⟩
  · rw [← map_el_turnsAll inLoop u, ← map_turn_nestedTurnsAll [], List.map_map]
    rfl
  · intro n hn
    have start : Innermost u.widgets (([] : List Turn).find? Turn.bound) u.widgets := SameStack.refl u.widgets
    have houter := innermost_of_mem_nestedTurnsAll start hn
    exact ⟨fun s hs => houter.of_mem_stages hs, n.turn.finished_eq⟩
  · intro closed
    rw [weave_eq closed]
    exact ⟨(weaveForest_woven false u nodes).stack.eq_nil.mpr closed, misuse_weaveForest false u nodes⟩

end WidgetTemplates.Compile
