import WidgetTemplates.Proofs.Compile.Woven

/-!
# Which elements become roots

An element becomes the root of a widget exactly if it has `w-bind` and a widget type stands for its value
(`isRoot_applyRules`). That depends on the settings of the template and on the files around it, which stay the
same while a forest is woven (`Woven.context`), and on nothing else.
-/

namespace WidgetTemplates.Compile

open Script (Expr Stmt)
open Template (Element Node Problem)

/-- Whether an element opens a widget: it has `w-bind` with a value that names a type, or there is a default
widget. -/
def CompileUnit.opens (u : CompileUnit) (el : Element) : Bool :=
  match el.find? "w-bind" with
  | none => false
  | some a =>
    match a.value with
    | some (.str path) => !path.isEmpty || u.defaultModule?.isSome
    | some _ => true
    | none => u.defaultModule?.isSome

/-- The settings and the files decide which elements open a widget. -/
theorem opens_congr {u u' : CompileUnit} (settings : u'.settings = u.settings)
    (files : u'.files = u.files) (el : Element) : u'.opens el = u.opens el := by
  have hdefault : u'.defaultModule? = u.defaultModule? := by
    rw [CompileUnit.defaultModule?, CompileUnit.defaultModule?, settings, files]
  rw [CompileUnit.opens, CompileUnit.opens, hdefault]

namespace Site

/-- The type of a widget is found by its value: a path that is not empty, any other expression, or the default
widget. -/
theorem isSome_widgetTypeOf? (u : CompileUnit) (value : Option Expr) :
    (u.widgetTypeOf? value).isSome =
      match value with
      | some (.str path) => !path.isEmpty || u.defaultModule?.isSome
      | some _ => true
      | none => u.defaultModule?.isSome := by
  unfold CompileUnit.widgetTypeOf?
  rcases value with _ | e
  · simp
  · cases e with
    | str path => rcases h : path.isEmpty with _ | _ <;> simp [h]
    | _ => rfl

/-- The value of `w-bind` decides whether an element opens a widget. -/
theorem opens_of_find? {u : CompileUnit} {el : Element} {a : Template.Attribute}
    (h : el.find? "w-bind" = some a) : u.opens el = (u.widgetTypeOf? a.value).isSome := by
  rw [CompileUnit.opens, h, isSome_widgetTypeOf?]

/-- The rule for `w-bind` makes a root of an element exactly if it opens a widget. -/
theorem isRoot_bind {s : Site} (outer : s.isRoot = false) : s.bind.isRoot = s.unit.opens s.el := by
  rcases s.bind_cases with ⟨hf, h⟩ | ⟨a, hf, ⟨ht, p, h⟩ | ⟨widgetType, u, ht, h⟩⟩
  · rw [h, outer, CompileUnit.opens, hf]
  · rw [h, opens_of_find? hf, ht]
    exact outer
  · rw [h, opens_of_find? hf, ht]
    rfl

variable (s : Site)

/-- Giving the nested form of the id makes no root. -/
theorem isRoot_nestedId : s.nestedId.2.isRoot = s.isRoot := isRoot_assign s s.inLoop

theorem isRoot_handleId : s.handleId.isRoot = s.isRoot := by
  rcases s.handleId_cases with ⟨-, h⟩ | ⟨-, ⟨-, h⟩ | ⟨-, ⟨-, h⟩ | ⟨-, h⟩⟩⟩ <;> rw [h]
  · rfl
  · exact s.isRoot_nestedId
  · rw [isRoot_ensureVariable, isRoot_assign]

theorem isRoot_handleEvents : s.handleEvents.isRoot = s.isRoot := by
  have hheard := (foldl_handleEvent_frame s.forall_mem_eventNames s).1
  rcases s.handleEvents_cases with ⟨-, -, h⟩ | ⟨-, first, more, -, h⟩ | ⟨-, -, h⟩ | ⟨-, -, h⟩ <;> rw [h]
  · rfl
  · exact (isRoot_nestedId _).trans hheard
  · exact hheard

theorem isRoot_handleExtend : s.handleExtend.isRoot = s.isRoot := by
  rcases s.handleExtend_cases with h | ⟨p, h⟩ | ⟨a, widgetType, u, -, -, h⟩ <;> rw [h] <;> rfl

theorem isRoot_handleFor : s.handleFor.isRoot = s.isRoot := by
  rcases s.handleFor_cases with h | ⟨p, h⟩ | ⟨a, target, -, -, -, h⟩ <;> rw [h] <;> rfl

/-- The rule for `w-body` makes no root. -/
theorem isRoot_handleBody : s.handleBody.isRoot = s.isRoot := by
  apply handleBody_induction (motive := fun t => t.isRoot = s.isRoot)
  · exact fun _ => rfl
  · exact fun _ => rfl
  · exact fun _ => rfl
  · exact fun t repeated ht => (t.isRoot_assign repeated).trans ht
  · exact fun _ _ ht => ht
  · exact fun t ht => t.isRoot_ensureVariable.trans ht
  · exact fun _ _ _ ht => ht

/-- **The rules make an element a root exactly if it opens a widget.** -/
theorem isRoot_applyRules (el : Element) (u : CompileUnit) (inLoop : Bool) :
    (start el u inLoop).applyRules.isRoot = u.opens el := by
  have hbind : (start el u inLoop).bind.isRoot = u.opens el := isRoot_bind rfl
  rw [applyRules_eq, isRoot_handleBody, beforeBody, isRoot_handleFor, isRoot_handleExtend,
    isRoot_handleEvents]
  split
  · exact hbind
  · rw [isRoot_handleId, hbind]

/-! ## What a compile unit keeps while a forest is woven -/

/-- Surrounding a custom tag changes neither settings nor files. -/
theorem context_surround : s.surround.unit.settings = s.unit.settings ∧ s.surround.unit.files = s.unit.files := by
  rcases s.surround_cases with ⟨h, -⟩ | ⟨h, -, -, hs⟩
  · rw [h]
    exact ⟨rfl, rfl⟩
  · rw [hs]
    obtain ⟨hset, hfiles⟩ := context_declare
      (s.unit.importHelper "__widgetArgs" "marko-widgets/taglib/helpers/widgetArgs")
      "_cleanupWidgetArgs" "__widgetArgs.cleanup"
    obtain ⟨hset', hfiles'⟩ := context_declare s.unit "__widgetArgs" _
    exact ⟨hset.trans hset', hfiles.trans hfiles'⟩

/-- Leaving an element changes neither settings nor files. -/
theorem context_leave : s.leave.unit.settings = s.unit.settings ∧ s.leave.unit.files = s.unit.files := by
  rcases s.leave_cases with ⟨-, m, hs⟩ | ⟨w, rest, -, hs⟩ <;> rw [hs]
  · exact ⟨rfl, rfl⟩
  · exact context_declare _ _ _

/-- Closing a widget changes neither settings nor files. -/
theorem context_close : s.close.unit.settings = s.unit.settings ∧ s.close.unit.files = s.unit.files := by
  obtain ⟨hset, hfiles⟩ := s.context_surround
  rw [close]
  split
  · obtain ⟨hset', hfiles'⟩ := s.surround.context_leave
    exact ⟨hset'.trans hset, hfiles'.trans hfiles⟩
  · exact ⟨hset, hfiles⟩

/-- Finishing an element changes neither settings nor files, if its children do not. -/
theorem context_finished {el : Element} {u u₁ : CompileUnit} {inLoop : Bool}
    (inside : u₁.settings = (start el u inLoop).applyRules.unit.settings ∧
      u₁.files = (start el u inLoop).applyRules.unit.files) :
    (finished el u inLoop u₁).unit.settings = u.settings ∧
      (finished el u inLoop u₁).unit.files = u.files := by
  have edits := start_edits el u inLoop
  obtain ⟨hset, hfiles⟩ := context_close { (start el u inLoop).applyRules with unit := u₁ }
  rw [finished, hset, hfiles]
  exact ⟨inside.1.trans edits.settings, inside.2.trans edits.files⟩

/-- The rules for one element do not decide which other elements open a widget. -/
theorem opens_applyRules (el : Element) (u : CompileUnit) (inLoop : Bool) (other : Element) :
    (start el u inLoop).applyRules.unit.opens other = u.opens other :=
  have edits := start_edits el u inLoop
  opens_congr edits.settings edits.files other

/-- Below an element that opens no widget the same widgets are open as around it. -/
theorem stack_applyRules {el : Element} {u : CompileUnit} {inLoop : Bool} (closed : u.opens el = false) :
    SameStack u.widgets (start el u inLoop).applyRules.unit.widgets := by
  rcases (start_edits el u inLoop).stack rfl with ⟨-, hsame⟩ | ⟨hroot, -⟩
  · exact hsame
  · rw [isRoot_applyRules, closed] at hroot
    exact nomatch hroot

/-! ## Finished elements -/

variable {el : Element} {u u₁ : CompileUnit} {inLoop : Bool}

/-- The finished element of an element that opens no widget. -/
theorem finished_of_not_opens (opens : u.opens el = false) :
    ∃ s : Site, finished el u inLoop u₁ = s.surround ∧ s.el = (start el u inLoop).applyRules.el ∧
      s.handover = (start el u inLoop).applyRules.handover ∧
      s.appended = (start el u inLoop).applyRules.appended := by
  refine ⟨{ (start el u inLoop).applyRules with unit := u₁ }, ?_, rfl, rfl, rfl⟩
  rw [finished, close, (surround_frame _).1]
  dsimp only
  rw [isRoot_applyRules, opens, if_neg (by simp)]

/-- The finished element of an element that opens a widget, whose type has a name. -/
theorem finished_of_opens (opens : u.opens el = true)
    (inside : SameStack (start el u inLoop).applyRules.unit.widgets u₁.widgets) :
    ∃ (s : Site) (w : OpenWidget), (finished el u inLoop u₁).el = finishRoot s.surround.el w ∧
      s.el = (start el u inLoop).applyRules.el ∧
      s.handover = (start el u inLoop).applyRules.handover ∧
      ∃ t, Edits el true (start el u inLoop) t ∧ NamesType el "w-bind" t w.widgetType := by
  have hroot : (start el u inLoop).applyRules.isRoot = true := (isRoot_applyRules el u inLoop).trans opens
  rcases (start_edits el u inLoop).stack rfl with ⟨houter, -⟩ | ⟨-, w, rest, hw, -, -, -, t, edits, names⟩
  · exact absurd (hroot.symm.trans houter) (by simp)
  · rw [hw] at inside
    -- below the element its widget has kept its type, whatever else it has learned
    obtain ⟨w', hw', -, -, htype⟩ := inside.of_cons
    obtain ⟨hsurround, hwidgets, -⟩ := surround_frame { (start el u inLoop).applyRules with unit := u₁ }
    refine ⟨{ (start el u inLoop).applyRules with unit := u₁ }, w', ?_, rfl, rfl, t, edits, htype ▸ names⟩
    rw [finished, close, hsurround, hroot, if_pos rfl, leave_eq (hwidgets.trans hw')]

/-- Finishing an element keeps its tag, whatever its children have taught its widget. -/
theorem tag_finished (inside : SameStack (start el u inLoop).applyRules.unit.widgets u₁.widgets) :
    (finished el u inLoop u₁).el.tag = el.tag := by
  have htag : (start el u inLoop).applyRules.el.tag = el.tag := (start_edits el u inLoop).tag
  rcases ho : u.opens el with _ | _
  · obtain ⟨s, hfinished, hel, -⟩ := @finished_of_not_opens el u u₁ inLoop ho
    rw [hfinished, s.kind_surround.1, hel, htag]
  · obtain ⟨s, w, hfinished, hel, -⟩ := finished_of_opens ho inside
    rw [hfinished, (finishRoot_frame _ w).2.2.1, s.kind_surround.1, hel, htag]

end Site

/-- Weaving a forest changes neither the settings nor the files. -/
theorem Woven.context {inLoop : Bool} {u u' : CompileUnit} {nodes nodes' : List Node}
    (h : Woven inLoop u nodes nodes' u') : u'.settings = u.settings ∧ u'.files = u.files := by
  induction h with
  | nil => exact ⟨rfl, rfl⟩
  | element inside after ihInside ihAfter =>
    obtain ⟨hset, hfiles⟩ := Site.context_finished ihInside
    exact ⟨ihAfter.1.trans hset, ihAfter.2.trans hfiles⟩
  | loop inside after ihInside ihAfter =>
    exact ⟨ihAfter.1.trans ihInside.1, ihAfter.2.trans ihInside.2⟩
  | leaf leaf after ih => exact ih

/-- Weaving a forest does not change which elements open a widget. -/
theorem Woven.opens {inLoop : Bool} {u u' : CompileUnit} {nodes nodes' : List Node}
    (h : Woven inLoop u nodes nodes' u') (el : Element) : u'.opens el = u.opens el :=
  opens_congr h.context.1 h.context.2 el

/-- Whether an element opens a widget does not change while a forest is woven. -/
theorem opens_weaveForest (inLoop : Bool) (u : CompileUnit) (nodes : List Node) :
    (weaveForest inLoop u nodes).2.opens = u.opens :=
  funext (weaveForest_woven inLoop u nodes).opens

end WidgetTemplates.Compile
