import WidgetTemplates.Compile.Weave
import WidgetTemplates.Proofs.Compile.Rules
import WidgetTemplates.Proofs.Template.Occurrence

/-!
# Induction over weaving

`Woven` relates a forest to what weaving makes of it, one case for each kind of node, with the state of the
compile unit before and after. Weaving a forest yields a derivation (`weaveForest_woven`), and properties of
weaving are proved by induction on it.

The first property is the discipline of the open widgets (`Woven.stack`): weaving a forest leaves the open
widgets as they were, except for what the innermost one has learned.
-/

namespace WidgetTemplates.Compile

open Script (Expr Stmt)
open Template (Element Node)

namespace Site

/-- What is written after the children of an element. -/
def close (s : Site) : Site := if s.surround.isRoot then s.surround.leave else s.surround

/-- The site of an element when it is finished, `u'` being the compile unit after its children. -/
def finished (el : Element) (u : CompileUnit) (inLoop : Bool) (u' : CompileUnit) : Site :=
  { (start el u inLoop).applyRules with unit := u' }.close

end Site

/-- A node that weaving leaves as it is. -/
def IsLeaf : Node → Prop
  | .element .. | .loop .. => False
  | _ => True

/-- Throughout a forest that starts with a leaf. -/
theorem throughout_leaf {p : Template.Occurrence → Prop} {above rest : List Node} {node : Node}
    (leaf : IsLeaf node) :
    Template.Throughout p above (node :: rest) ↔ p ⟨node, above⟩ ∧ Template.Throughout p above rest := by
  cases node with
  | element => exact leaf.elim
  | loop => exact leaf.elim
  | text => exact Template.throughout_text
  | expression => exact Template.throughout_expression
  | code => exact Template.throughout_code

/-- Induction over forests as weaving goes through them: what is neither element nor loop is passed over. -/
@[elab_as_elim]
theorem weavingInduction {motive : List Node → Prop} (nil : motive [])
    (element : ∀ el children rest, motive children → motive rest → motive (.element el children :: rest))
    (loop : ∀ item source body location rest, motive body → motive rest →
      motive (.loop item source body location :: rest))
    (leaf : ∀ node rest, IsLeaf node → motive rest → motive (node :: rest)) (nodes : List Node) : motive nodes := by
  induction nodes using Template.forestInduction with
  | nil => exact nil
  | element el children rest inside after => exact element el children rest inside after
  | loop item source body location rest inside after => exact loop item source body location rest inside after
  | text value location rest after => exact leaf _ rest trivial after
  | expression expr location rest after => exact leaf _ rest trivial after
  | code stmt rest after => exact leaf _ rest trivial after

/-- `Woven inLoop u nodes nodes' u'`: below a loop or not, weaving `nodes` in the compile unit `u` gives `nodes'` and
the compile unit `u'`. The children of an element are woven when its rules have been applied, and the body of a loop is
woven as one that lies below a loop. -/
inductive Woven : Bool → CompileUnit → List Node → List Node → CompileUnit → Prop
  | nil {inLoop : Bool} {u : CompileUnit} : Woven inLoop u [] [] u
  | element {inLoop : Bool} {u u₁ u₂ : CompileUnit} {el : Element}
    {children children' rest rest' : List Node}
    (inside : Woven inLoop (Site.start el u inLoop).applyRules.unit children children' u₁)
    (after : Woven inLoop (Site.finished el u inLoop u₁).unit rest rest' u₂) :
    Woven inLoop u (.element el children :: rest)
      (.element (Site.finished el u inLoop u₁).el
        (children' ++ (Site.finished el u inLoop u₁).appended.map .code) :: rest') u₂
  | loop {inLoop : Bool} {u u₁ u₂ : CompileUnit} {item : String} {source : Expr}
    {location : Template.Location} {body body' rest rest' : List Node}
    (inside : Woven true u body body' u₁) (after : Woven inLoop u₁ rest rest' u₂) :
    Woven inLoop u (.loop item source body location :: rest)
      (.loop item source body' location :: rest') u₂
  | leaf {inLoop : Bool} {u u' : CompileUnit} {node : Node} {rest rest' : List Node}
    (leaf : IsLeaf node) (after : Woven inLoop u rest rest' u') :
    Woven inLoop u (node :: rest) (node :: rest') u'

mutual

/-- Weaving a node yields the first step of a derivation. -/
theorem weaveNode_woven {rest rest' : List Node} {u' : CompileUnit} (inLoop : Bool) (u : CompileUnit) :
    (node : Node) → Woven inLoop (weaveNode inLoop u node).2 rest rest' u' →
      Woven inLoop u (node :: rest) ((weaveNode inLoop u node).1 :: rest') u'
  | .element el children, after =>
    .element (weaveForest_woven inLoop (Site.start el u inLoop).applyRules.unit children) after
  | .loop _ _ body _, after => .loop (weaveForest_woven true u body) after
  | .text .., after => .leaf trivial after
  | .expression .., after => .leaf trivial after
  | .code _, after => .leaf trivial after

/-- Weaving a forest yields a derivation. -/
theorem weaveForest_woven (inLoop : Bool) (u : CompileUnit) :
    (nodes : List Node) →
      Woven inLoop u nodes (weaveForest inLoop u nodes).1 (weaveForest inLoop u nodes).2
  | [] => .nil
  | node :: rest =>
    weaveNode_woven inLoop u node (weaveForest_woven inLoop (weaveNode inLoop u node).2 rest)

end

/-! ## The open widgets -/

/-- The same widgets are open, and only the innermost one can have learned something. -/
inductive SameStack : List OpenWidget → List OpenWidget → Prop
  | nil : SameStack [] []
  | cons {w w' : OpenWidget} (rest : List OpenWidget) (tag : w'.tag = w.tag)
    (location : w'.location = w.location) (widgetType : w'.widgetType = w.widgetType) :
    SameStack (w :: rest) (w' :: rest)

namespace SameStack

theorem refl : (ws : List OpenWidget) → SameStack ws ws
  | [] => .nil
  | _ :: rest => .cons rest rfl rfl rfl

theorem trans {ws ws' ws'' : List OpenWidget} (h : SameStack ws ws') (h' : SameStack ws' ws'') :
    SameStack ws ws'' := by
  cases h with
  | nil => exact h'
  | cons rest tag location widgetType =>
    cases h' with
    | cons _ tag' location' widgetType' =>
      exact .cons rest (tag'.trans tag) (location'.trans location) (widgetType'.trans widgetType)

theorem of_eq {ws ws' : List OpenWidget} (h : ws' = ws) : SameStack ws ws' := h ▸ refl ws

theorem eq_nil {ws ws' : List OpenWidget} (h : SameStack ws ws') : ws' = [] ↔ ws = [] := by
  cases h <;> simp

/-- The innermost widget of a stack stays that, with what it has learned. -/
theorem of_cons {w : OpenWidget} {rest ws' : List OpenWidget} (h : SameStack (w :: rest) ws') :
    ∃ w', ws' = w' :: rest ∧ w'.tag = w.tag ∧ w'.location = w.location ∧
      w'.widgetType = w.widgetType := by
  cases h with
  | cons _ tag location widgetType => exact ⟨_, rfl, tag, location, widgetType⟩

end SameStack

namespace Site

variable {orig : Element} {late : Bool} {s s' : Site}

/-- Listening to an event leaves the widgets open. -/
theorem stack_listen (s : Site) (type : String) (handler : Expr) :
    SameStack s.unit.widgets (s.listen type handler).unit.widgets := by
  unfold listen
  split
  · exact .refl _
  · rcases hw : s.unit.widgets with _ | ⟨w, rest⟩
    · exact .of_eq (by simp [setAttr, CompileUnit.modifyContaining, hw])
    · simp only [setAttr, CompileUnit.modifyContaining, hw]
      exact .cons rest rfl rfl rfl

/-- Announcing an attribute write leaves the widgets open. -/
theorem stack_announce (s : Site) (name : String) (value : Expr) :
    SameStack s.unit.widgets (s.announce name value).unit.widgets := by
  rw [announce, CompileUnit.modifyContaining]
  rcases hw : s.unit.widgets with _ | ⟨w, rest⟩
  · exact .of_eq hw
  · exact .cons rest rfl rfl rfl

/-- An edit keeps the open widgets, or opens the widget of the element. -/
theorem Edit.stack (h : Edit orig late s s') :
    s'.isRoot = s.isRoot ∧ SameStack s.unit.widgets s'.unit.widgets ∨
      s.isRoot = false ∧ s'.isRoot = true ∧ ∃ widgetType, NamesType orig "w-bind" s widgetType ∧
        s'.unit.widgets = { tag := s.el.tag, location := s.el.location, widgetType } :: s.unit.widgets := by
  cases h with
  | declareType path => exact .inl ⟨rfl, .of_eq (widgets_widgetType path s.unit)⟩
  | enter widgetType names outer =>
    obtain ⟨-, -, -, hwidgets, -⟩ := s.bindId_frame
    refine .inr ⟨outer, rfl, widgetType, names, ?_⟩
    have hb := s.background_bindId
    have htag : s.bindId.el.tag = s.el.tag := congrArg Background.tag hb
    have hlocation : s.bindId.el.location = s.el.location := congrArg Background.location hb
    rw [Site.enter, CompileUnit.openWidget, hwidgets, htag, hlocation]
  | assign repeated => exact .inl ⟨isRoot_assign s repeated, .of_eq (s.assign_frame repeated).1⟩
  | ensureVariable => exact .inl ⟨isRoot_ensureVariable s, .of_eq (by rw [unit_ensureVariable])⟩
  | listen name type handler => exact .inl ⟨(s.listen_frame type handler).1, s.stack_listen type handler⟩
  | announce e => exact .inl ⟨rfl, s.stack_announce "body" e⟩
  | slot => exact .inl ⟨rfl, .of_eq (widgets_importModule _ _ s.unit)⟩
  | _ => exact .inl ⟨rfl, .refl _⟩

/-- A sequence of edits keeps the open widgets, or opens the widget of the element on top of them. The type of
that widget was named at some point in between. -/
theorem Edits.stack (h : Edits orig late s s') (outer : s.isRoot = false) :
    s'.isRoot = false ∧ SameStack s.unit.widgets s'.unit.widgets ∨
      s'.isRoot = true ∧ ∃ w rest, s'.unit.widgets = w :: rest ∧ SameStack s.unit.widgets rest ∧
        w.tag = s.el.tag ∧ w.location = s.el.location ∧
        ∃ t, Edits orig late s t ∧ NamesType orig "w-bind" t w.widgetType := by
  induction h with
  | refl => exact .inl ⟨outer, .refl _⟩
  | @tail t s' edits step ih =>
    rcases ih with ⟨houter, hstack⟩ | ⟨hroot, w, rest, hw, hstack, htag, hlocation, hnames⟩
    · rcases step.stack with ⟨hkeep, hstep⟩ | ⟨-, hroot, widgetType, hnames, hopened⟩
      · exact .inl ⟨hkeep.trans houter, hstack.trans hstep⟩
      · -- this edit opens the widget, on top of those that were open all along
        have hfixed : t.el.tag = s.el.tag ∧ t.el.location = s.el.location :=
          ⟨Edits.tag edits, Edits.location edits⟩
        exact .inr ⟨hroot, _, _, hopened, hstack, hfixed.1, hfixed.2, t, edits, hnames⟩
    · rcases step.stack with ⟨hkeep, hstep⟩ | ⟨houter, -⟩
      · rw [hw] at hstep
        -- the widget has been opened by an earlier edit
        obtain ⟨w', hw', tag, location, widgetType⟩ := hstep.of_cons
        refine .inr ⟨hkeep.trans hroot, w', rest, hw', hstack, tag.trans htag,
          location.trans hlocation, ?_⟩
        rwa [widgetType]
      · exact absurd (houter.symm.trans hroot) (by simp)

/-! ### Closing an element -/

/-- The statement that deposits what is handed over. -/
def depositStmt (h : Handover) : Stmt := .expr ((Expr.ident "__widgetArgs").call h.args)

/-- The statement that clears what has been handed over. -/
def clearStmt : Stmt := .expr ((Expr.ident "_cleanupWidgetArgs").call [.out])

/-- The compile unit with the helpers of the two statements declared. -/
def declareArgs (u : CompileUnit) : CompileUnit :=
  (u.importHelper "__widgetArgs" "marko-widgets/taglib/helpers/widgetArgs").declare
    "_cleanupWidgetArgs" "__widgetArgs.cleanup"

/-- Handing over puts two statements around the element, or there is nothing to hand over. -/
theorem surround_cases (s : Site) :
    (s.surround = s ∧ ∀ h, s.handover = some h → h.isEmpty = true) ∨
      ∃ h, s.handover = some h ∧ h.isEmpty = false ∧
        s.surround =
          { s with el := (s.el.insertBefore (depositStmt h)).insertAfter clearStmt
                   unit := declareArgs s.unit } := by
  unfold surround
  rcases hh : s.handover with _ | h
  · exact .inl ⟨rfl, nofun⟩
  · dsimp only [Handover.surround]
    rcases he : h.isEmpty with _ | _
    · exact .inr ⟨h, rfl, he, rfl⟩
    · refine .inl ⟨?_, ?_⟩
      · rw [if_pos rfl]
        exact congrArg (fun o => { s with handover := o }) hh.symm
      · rintro h' heq
        obtain rfl := Option.some.inj heq
        exact he

/-- Surrounding a custom tag opens no widget and renders no body. -/
theorem surround_frame (s : Site) :
    s.surround.isRoot = s.isRoot ∧ s.surround.unit.widgets = s.unit.widgets ∧
      s.surround.appended = s.appended := by
  rcases s.surround_cases with ⟨h, -⟩ | ⟨h, -, -, hs⟩
  · rw [h]
    exact ⟨rfl, rfl, rfl⟩
  · rw [hs]
    refine ⟨rfl, ?_, rfl⟩
    exact (widgets_declare _ _ _).trans (widgets_importModule _ _ s.unit)

/-- The statements that hand over are all that is put around an element. -/
theorem surround_el (s : Site) :
    s.surround.el.attributes = s.el.attributes ∧ s.surround.el.widget = s.el.widget := by
  rcases s.surround_cases with ⟨hs, -⟩ | ⟨h, -, -, hs⟩ <;> rw [hs] <;> exact ⟨rfl, rfl⟩

/-- They make no other element of it. -/
theorem kind_surround (s : Site) :
    s.surround.el.tag = s.el.tag ∧ s.surround.el.custom = s.el.custom ∧ s.surround.el.location = s.el.location := by
  rcases s.surround_cases with ⟨hs, -⟩ | ⟨h, -, -, hs⟩ <;> rw [hs] <;> exact ⟨rfl, rfl, rfl⟩

/-- What is put before an element declares nothing. -/
theorem before_surround (s : Site) : ∃ calls : List Expr, s.surround.el.before = s.el.before ++ calls.map .expr := by
  rcases s.surround_cases with ⟨hs, -⟩ | ⟨h, -, -, hs⟩
  · rw [hs]
    exact ⟨[], (List.append_nil _).symm⟩
  · rw [hs]
    exact ⟨[(Expr.ident "__widgetArgs").call h.args], rfl⟩

/-- Closing a widget writes attributes of its root and wraps it, and keeps its other fields. -/
theorem finishRoot_eq (el : Element) (w : OpenWidget) :
    finishRoot el w = { el with attributes := (finishRoot el w).attributes, widget := (finishRoot el w).widget } := by
  have hpending : ∀ (pending : List (String × Expr)) (el : Element),
      pending.foldl (fun el p => el.set (pendingName p.1) p.2) el =
        { el with attributes := (pending.foldl (fun el p => el.set (pendingName p.1) p.2) el).attributes } := by
    intro pending
    induction pending with
    | nil => exact fun _ => rfl
    | cons p rest ih => exact fun el => ih (el.set (pendingName p.1) p.2)
  rw [finishRoot, hpending]
  rcases w.domEvents with _ | _ <;> rfl

/-- What closing a widget leaves of its root. -/
theorem finishRoot_frame (el : Element) (w : OpenWidget) :
    (finishRoot el w).before = el.before ∧ (finishRoot el w).after = el.after ∧
      (finishRoot el w).tag = el.tag ∧
      (finishRoot el w).widget = some ⟨.ident "__widgetTag", w.widgetType⟩ := by
  have h := finishRoot_eq el w
  refine ⟨?_, ?_, ?_, rfl⟩ <;> rw [h]

/-- Closing the widget of a root takes it from the open ones. -/
theorem leave_eq {s : Site} {w : OpenWidget} {rest : List OpenWidget}
    (h : s.unit.widgets = w :: rest) :
    s.leave =
      { s with
        el := finishRoot s.el w
        unit := CompileUnit.importHelper { s.unit with widgets := rest } "__widgetTag"
          "marko-widgets/taglib/widget-tag" } := by
  simp only [leave, CompileUnit.closeWidget, h]

/-- Closing the widget of a root finishes the root, unless no widget is open. -/
theorem leave_cases (s : Site) :
    (s.unit.widgets = [] ∧ ∃ m, s.leave = { s with unit := s.unit.blame m }) ∨
      ∃ w rest, s.unit.widgets = w :: rest ∧ s.leave =
        { s with
          el := finishRoot s.el w
          unit := CompileUnit.importHelper { s.unit with widgets := rest } "__widgetTag"
            "marko-widgets/taglib/widget-tag" } := by
  rcases hw : s.unit.widgets with _ | ⟨w, rest⟩
  · refine .inl ⟨rfl, .closeWithoutOpen, ?_⟩
    simp only [leave, CompileUnit.closeWidget, hw]
  · exact .inr ⟨w, rest, rfl, leave_eq hw⟩

/-- When an element is finished, the widgets that were open before it are open again. -/
theorem finished_stack {el : Element} {u u₁ : CompileUnit} {inLoop : Bool}
    (inside : SameStack (start el u inLoop).applyRules.unit.widgets u₁.widgets) :
    SameStack u.widgets (finished el u inLoop u₁).unit.widgets := by
  let s : Site := { (start el u inLoop).applyRules with unit := u₁ }
  obtain ⟨hroot, hwidgets, -⟩ := s.surround_frame
  rw [finished, close]
  rcases (start_edits el u inLoop).stack rfl with ⟨houter, hstack⟩ | ⟨hinner, w, rest, hw, hstack, -⟩
  · rw [hroot, houter, if_neg (by simp), hwidgets]
    exact hstack.trans inside
  · rw [hw] at inside
    obtain ⟨w', hw', -⟩ := inside.of_cons
    rw [hroot, hinner, if_pos rfl, leave_eq (hwidgets.trans hw')]
    exact hstack.trans (.of_eq (widgets_importModule _ _ _))

end Site

/-- **Weaving a forest leaves the open widgets as they were**, except for what the innermost one has learned. -/
theorem Woven.stack {inLoop : Bool} {u u' : CompileUnit} {nodes nodes' : List Node}
    (h : Woven inLoop u nodes nodes' u') : SameStack u.widgets u'.widgets := by
  induction h with
  | nil => exact .refl _
  | element inside after ihInside ihAfter => exact (Site.finished_stack ihInside).trans ihAfter
  | loop inside after ihInside ihAfter => exact ihInside.trans ihAfter
  | leaf leaf after ih => exact ih

/-- A template is woven as its forest is: no widget is open in the end that was not open before. -/
theorem weave_eq {u : CompileUnit} (closed : u.widgets = []) (nodes : List Node) :
    weave u nodes = weaveForest false u nodes := by
  have hclosed : (weaveForest false u nodes).2.widgets = [] :=
    (weaveForest_woven false u nodes).stack.eq_nil.mpr closed
  rw [weave]
  simp [hclosed]

end WidgetTemplates.Compile
