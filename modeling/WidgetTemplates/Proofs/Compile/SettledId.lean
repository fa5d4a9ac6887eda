import WidgetTemplates.Proofs.Compile.Rules

/-!
# The id of an ordinary element

At the site of an ordinary element, one that neither renders another template nor is the root of a widget,
the rules settle the id at most once. `Site.OrdinaryId` says what the element looks like then: its `id`
attribute is the absolute form of the settled id, and if that form is a variable, the declaration of the
variable is the last statement before the element. Every edit keeps this (`Edit.ordinaryId`), so it holds
when all rules have been applied.
-/

namespace WidgetTemplates.Compile

open Script (Expr Stmt)
open Template (Element Attribute)

namespace AssignedId

/-- The declaration of the variable of an id, once the variable has been declared. -/
def preamble (a : AssignedId) : List Stmt := if a.declared then a.declaration?.toList else []

/-- A numbered id whose variable, if it has one, has been declared. -/
def ready (n : Nat) (repeated : Bool) : AssignedId := { numbered n repeated with declared := repeated }

/-- The absolute form of a repeated id that is ready is its variable. -/
theorem absolute_ready (n : Nat) :
    (ready n true).absolute = .ident ("__widgetId" ++ toString n) := rfl

/-- What stands before an element with a repeated id is the declaration of its variable. -/
theorem preamble_ready (n : Nat) :
    (ready n true).preamble =
      [.var ("__widgetId" ++ toString n) (elementIdCall (some (.str (toString n ++ "[]"))))] := rfl

/-- The ids that can be settled for the element `orig`, below a loop or not, when `n` is the next number, with the next
number afterwards: the id that the element has been given, or a number. Below a loop that is a repeated one, except for
the place of a provided body. -/
inductive Settles (orig : Element) (inLoop : Bool) (n : Nat) : AssignedId → Nat → Prop
  | explicit {e : Expr} (given : orig.value? "w-id" = some e) : Settles orig inLoop n (.explicit e) n
  | numbered (repeated : Bool) (free : orig.value? "w-id" = none)
    (single : repeated = false → inLoop = false ∨ TakesProvidedBody orig) :
    Settles orig inLoop n (.ready n repeated) (n + 1)

/-- The absolute form of such an id can be used. -/
theorem Settles.usable {orig : Element} {inLoop : Bool} {n next : Nat} {a : AssignedId}
    (h : a.Settles orig inLoop n next) :
    a.declared = true ∨ a.varName = none := by
  cases h with
  | explicit given => exact .inr rfl
  | numbered repeated free =>
    cases repeated with
    | false => exact .inr rfl
    | true => exact .inl rfl

end AssignedId

namespace Site

/-- What the site of the ordinary element `orig` looks like, `n` being the next number at the start. As long as no
id is settled, nothing has happened to the element's own id. A settled id is the `id` attribute, and its variable is
declared. -/
structure OrdinaryId (orig : Element) (inLoop : Bool) (n : Nat) (s : Site) : Prop where
  unsettled : s.assigned = none → s.el.find? "id" = orig.find? "id" ∧ s.el.before = orig.before ∧
    s.unit.nextId = n ∧ (s.inWidget = true → s.el.find? "w-id" = orig.find? "w-id")
  settled : ∀ a, s.assigned = some a → s.el.find? "id" = some ⟨"id", some a.absolute⟩ ∧
    s.el.before = orig.before ++ a.preamble ∧ a.Settles orig inLoop n s.unit.nextId

variable {orig : Element} {inLoop : Bool} {n : Nat} {late : Bool} {s s' : Site}

/-- What is on the site of an ordinary element before any rule. -/
theorem ordinaryId_start (el : Element) (u : CompileUnit) (inLoop : Bool) :
    OrdinaryId el inLoop u.nextId (start el u inLoop) :=
  ⟨fun _ => ⟨rfl, rfl, rfl, fun _ => rfl⟩, fun _ h => nomatch h⟩

/-- A change elsewhere: in other attributes, or in the unit. -/
theorem OrdinaryId.of_frame (h : OrdinaryId orig inLoop n s) (assigned : s'.assigned = s.assigned)
    (id : s'.el.find? "id" = s.el.find? "id") (before : s'.el.before = s.el.before)
    (next : s'.unit.nextId = s.unit.nextId)
    (explicit : s'.inWidget = true → s.inWidget = true ∧ s'.el.find? "w-id" = s.el.find? "w-id") :
    OrdinaryId orig inLoop n s' := by
  constructor
  · intro hnone
    obtain ⟨hid, hbefore, hnext, hexplicit⟩ := h.unsettled (assigned ▸ hnone)
    refine ⟨id.trans hid, before.trans hbefore, next.trans hnext, ?_⟩
    intro inside
    exact (explicit inside).2.trans (hexplicit (explicit inside).1)
  · intro a ha
    rw [id, before, next]
    exact h.settled a (assigned ▸ ha)

/-- Setting an attribute that is no id. -/
theorem OrdinaryId.setAttr {name : String} {value : Expr} (h : OrdinaryId orig inLoop n s) (noId : name ≠ "id")
    (other : isWidgetName name = false) : OrdinaryId orig inLoop n (s.setAttr name value) := by
  have hne : "w-id" ≠ name := by
    rintro rfl
    exact nomatch other
  exact h.of_frame rfl (Element.find?_set_ne noId.symm) rfl rfl
    fun inside => ⟨inside, Element.find?_set_ne hne⟩

/-- The site right after the id of an ordinary element has been settled. -/
theorem OrdinaryId.assign {repeated : Bool} (h : OrdinaryId orig inLoop n s) (plain : s.el.custom = false)
    (inside : s.inWidget = true) (unsettled : s.assigned = none)
    (single : repeated = false → inLoop = false ∨ TakesProvidedBody orig) :
    OrdinaryId orig inLoop n (s.assign repeated) := by
  obtain ⟨-, hbefore, hnext, hexplicit⟩ := h.unsettled unsettled
  have hvalue : s.el.value? "w-id" = orig.value? "w-id" := by
    rw [Element.value?, Element.value?, hexplicit inside]
  rw [assign_eq unsettled]
  simp only [plain, Bool.false_eq_true, if_false]
  rcases s.chooseId_cases repeated with ⟨e, hfound, hchoose⟩ | ⟨hfree, hchoose⟩
  · -- the given id needs no variable
    rw [hchoose, ensureVariable_of_ready rfl (.inr rfl)]
    refine ⟨fun hnone => absurd hnone (Option.some_ne_none _), ?_⟩
    intro a ha
    obtain rfl := Option.some.inj ha
    have hgiven : orig.value? "w-id" = some e := by rw [← hvalue, Element.value?, hfound]; rfl
    refine ⟨Element.find?_set_self _ _ _, ?_, hnext ▸ .explicit hgiven⟩
    exact hbefore.trans (List.append_nil _).symm
  · -- a number is taken, and exactly a repeated one has a variable to declare
    rw [hchoose]
    subst hnext
    have hnumbered : (AssignedId.ready s.unit.nextId repeated).Settles orig inLoop s.unit.nextId
        s.unit.takeId.2.nextId := .numbered repeated (hvalue ▸ hfree) single
    refine ⟨?_, ?_⟩
    · intro hnone
      cases repeated <;> exact absurd hnone (Option.some_ne_none _)
    · intro a ha
      cases repeated with
      | false =>
        obtain rfl := Option.some.inj ha
        exact ⟨Element.find?_set_self _ _ _, hbefore.trans (List.append_nil _).symm, hnumbered⟩
      | true =>
        obtain rfl := Option.some.inj ha
        refine ⟨Element.find?_set_self _ _ _, ?_, hnumbered⟩
        exact congrArg (· ++ _) hbefore

/-- A settled id of an ordinary element needs no further declaration. -/
theorem OrdinaryId.ensureVariable_eq (h : OrdinaryId orig inLoop n s) : s.ensureVariable = s := by
  rcases ha : s.assigned with _ | a
  · rw [Site.ensureVariable, ha]
  · exact ensureVariable_of_ready ha (h.settled a ha).2.2.usable

@[simp] theorem nextId_declare (u : CompileUnit) (name code : String) :
    (u.declare name code).nextId = u.nextId := by
  obtain ⟨ds, h⟩ := declare_frame u name code
  rw [h]

@[simp] theorem nextId_importModule (u : CompileUnit) (name path : String) :
    (u.importModule name path).nextId = u.nextId := nextId_declare u name _

@[simp] theorem nextId_widgetType (u : CompileUnit) (path : String) :
    (u.widgetType path).2.nextId = u.nextId := by
  obtain ⟨ds, h⟩ := widgetType_frame u path
  rw [h]

@[simp] theorem nextId_modifyContaining (u : CompileUnit) (f : OpenWidget → OpenWidget) :
    (u.modifyContaining f).nextId = u.nextId := by
  rw [CompileUnit.modifyContaining]
  split <;> rfl

/-- **Every edit keeps the id of an ordinary element in order.** -/
theorem Edit.ordinaryId (h : Edit orig late s s') (loop : s.inLoop = inLoop) (outer : s'.isRoot = false)
    (plain : s'.el.custom = false) (id : OrdinaryId orig inLoop n s) : OrdinaryId orig inLoop n s' := by
  cases h with
  | report p => exact id.of_frame rfl rfl rfl rfl fun inside => ⟨inside, rfl⟩
  | drop name widgetName noBody noId =>
    have hid : "id" ≠ name := by
      rintro rfl
      exact nomatch widgetName
    -- in a widget `w-id` is only taken when the id is settled, so this is another attribute
    refine id.of_frame rfl (Element.find?_remove_ne hid) rfl rfl ?_
    intro inside
    refine ⟨inside, Element.find?_remove_ne ?_⟩
    rintro rfl
    exact absurd (inside.symm.trans (noId rfl)) (by simp)
  | declareType path =>
    refine id.of_frame rfl rfl rfl (by simp [Site.declareType]) fun inside => ⟨?_, rfl⟩
    rwa [inWidget_declareType] at inside
  | enter => exact nomatch outer
  | assign repeated inside unsettled custom single =>
    rw [custom_assign] at plain
    exact id.assign plain inside unsettled (loop ▸ single)
  | ensureVariable => rwa [id.ensureVariable_eq]
  | handId a settled inside custom => exact absurd (custom.symm.trans plain) (by simp)
  | listen name type handler =>
    have hc : s.el.custom = false := by rw [← plain, (s.listen_frame type handler).2.2.1]
    rw [Site.listen, hc, if_neg (by simp)]
    -- an ordinary element listens by an attribute of its own
    have hset : OrdinaryId orig inLoop n (s.setAttr ("data-w-on" ++ type)
        (.concat [handler, .str "|", Expr.widget.member "id"])) := by
      refine id.setAttr ?_ (by simp [isWidgetName, String.toList_append, List.isPrefixOf])
      intro heq
      exact absurd (congrArg (·.toList.head?) heq) (by simp)
    refine hset.of_frame rfl rfl rfl (by simp) fun _ => ⟨?_, rfl⟩
    assumption
  | extend => exact id.of_frame rfl rfl rfl rfl fun inside => ⟨inside, rfl⟩
  | label target => exact id.setAttr (by simp) rfl
  | takeBody =>
    exact id.of_frame rfl (Element.find?_remove_ne (by simp)) rfl rfl
      fun inside => ⟨inside, Element.find?_remove_ne (by simp)⟩
  | announce e =>
    refine id.of_frame rfl rfl rfl (by simp [Site.announce]) fun inside => ⟨?_, rfl⟩
    rwa [inWidget_announce] at inside
  | slot id' body =>
    refine id.of_frame rfl rfl rfl (by simp [Site.slot, CompileUnit.importHelper]) fun _ => ⟨?_, rfl⟩
    assumption

/-- Sequences of edits keep the id of an ordinary element in order. -/
theorem Edits.ordinaryId (h : Edits orig late s s') (loop : s.inLoop = inLoop) (outer : s'.isRoot = false)
    (plain : s'.el.custom = false) (id : OrdinaryId orig inLoop n s) : OrdinaryId orig inLoop n s' := by
  induction h with
  | refl => exact id
  | tail edits step ih =>
    have hloop := congrArg Background.inLoop (Edits.background edits)
    -- a root stays one, so the element was none before this edit either
    refine step.ordinaryId (hloop.trans loop) outer plain (ih ?_ ?_)
    · by_contra root
      exact absurd (step.isRoot (by simpa using root)) (by simp [outer])
    · rw [← plain]
      exact (congrArg Background.custom step.background).symm

/-- When all rules have been applied, the id of an ordinary element is in order. -/
theorem applyRules_ordinaryId {el : Element} {u : CompileUnit} {inLoop : Bool}
    (outer : (start el u inLoop).applyRules.isRoot = false) (plain : el.custom = false) :
    OrdinaryId el inLoop u.nextId (start el u inLoop).applyRules := by
  have edits := start_edits el u inLoop
  have hcustom : (start el u inLoop).applyRules.el.custom = false :=
    edits.custom.trans plain
  exact edits.ordinaryId rfl outer hcustom (ordinaryId_start el u inLoop)

/-- An edit takes at most one number, and takes it in a widget. -/
theorem Edit.nextId (h : Edit orig late s s') :
    s'.unit.nextId = s.unit.nextId ∨ s'.inWidget = true ∧ s'.unit.nextId = s.unit.nextId + 1 := by
  cases h with
  | declareType path => exact .inl (nextId_widgetType s.unit path)
  | enter => exact .inl s.bindId_frame.2.2.2.2
  | assign repeated inside =>
    rcases s.unit_assign repeated with h | h
    · exact .inl (congrArg CompileUnit.nextId h)
    · exact .inr ⟨(s.inWidget_assign repeated).trans inside, congrArg CompileUnit.nextId h⟩
  | ensureVariable => exact .inl (congrArg CompileUnit.nextId s.unit_ensureVariable)
  | listen name type handler =>
    unfold Site.listen
    split
    · exact .inl rfl
    · exact .inl (nextId_modifyContaining s.unit _)
  | announce => exact .inl (nextId_modifyContaining s.unit _)
  | slot => exact .inl (nextId_importModule s.unit _ _)
  | _ => exact .inl rfl

/-- The next number never goes down. -/
theorem Edit.nextId_le (h : Edit orig late s s') : s.unit.nextId ≤ s'.unit.nextId := by
  rcases h.nextId with h | ⟨-, h⟩ <;> omega

/-- The edits at an element give no number back. -/
theorem Edits.nextId_le (h : Edits orig late s s') : s.unit.nextId ≤ s'.unit.nextId :=
  h.keeps (p := fun t => s.unit.nextId ≤ t.unit.nextId) (fun _ _ step ih => Nat.le_trans ih step.nextId_le)
    (Nat.le_refl _)

/-- Outside the widgets no number is taken. -/
theorem Edits.nextId_outside (h : Edits orig late s s') (outside : s'.inWidget = false) :
    s'.unit.nextId = s.unit.nextId := by
  have hkeeps := h.keeps (p := fun t => t.inWidget = true ∨ t.unit.nextId = s.unit.nextId) ?_ (.inr rfl)
  · exact hkeeps.resolve_left (by simp [outside])
  · rintro t t' step (hinside | hsame)
    · exact .inl (step.inWidget hinside)
    · rcases step.nextId with h | ⟨hinside, -⟩
      · exact .inr (h.trans hsame)
      · exact .inl hinside

/-- An id is only settled in a widget. -/
theorem Edit.settled_inside (h : Edit orig late s s')
    (inside : s.assigned.isSome = true → s.inWidget = true) (settled : s'.assigned.isSome = true) :
    s'.inWidget = true := by
  have hkeep : s.inWidget = true → s'.inWidget = true := h.inWidget
  cases h with
  | report | drop | declareType | extend => exact hkeep (inside settled)
  | enter => rfl
  | assign repeated lies => exact hkeep lies
  | ensureVariable lies => exact hkeep lies
  | handId a _ lies => exact hkeep lies
  | listen name type handler given named lies => exact hkeep lies
  | label target given lies => exact hkeep lies
  | takeBody lies => exact hkeep lies
  | announce e lies => exact hkeep lies
  | slot id body lies => exact hkeep lies

/-- The rules settle an id only in a widget. -/
theorem Edits.settled_inside (h : Edits orig late s s') (unsettled : s.assigned = none)
    (settled : s'.assigned.isSome = true) : s'.inWidget = true :=
  h.keeps (p := fun t => t.assigned.isSome = true → t.inWidget = true) (fun _ _ => Edit.settled_inside)
    (by simp [unsettled]) settled

/-! ## The slot of an element that is no root -/

/-- The slot of an element that is no root has the absolute form of the settled id. -/
theorem fill_innerSlot (s : Site) (body : Option Expr) :
    ∃ a content, (fill (s.innerSlot body)).assigned = some a ∧
      (fill (s.innerSlot body)).appended = s.appended ++ [slotCall a.absolute content] := by
  -- a body of its own asks for a repeated id, a provided body for a single one
  cases body with
  | some e =>
    obtain ⟨a, ha⟩ := s.assign_settles true
    obtain ⟨a', ha', -, habs, -⟩ := ensureVariable_ready ha
    refine ⟨a', e, ?_, ?_⟩
    · rw [innerSlot_some e ha]
      exact ha'
    · rw [innerSlot_some e ha, fill, slot, habs]
      dsimp only
      rw [(find?_ensureVariable _ "w-body").2,
        (find?_assign_ne "w-body" (by simp) (by simp) s true).2]
  | none =>
    obtain ⟨a, ha⟩ := s.assign_settles false
    obtain ⟨a', ha', -, habs, -⟩ :=
      ensureVariable_ready (s := (s.assign false).announce "body" a.nested) ha
    refine ⟨a', providedBody, ?_, ?_⟩
    · rw [innerSlot_none ha]
      exact ha'
    · rw [innerSlot_none ha, fill, slot, habs]
      dsimp only
      rw [(find?_ensureVariable _ "w-body").2]
      exact congrArg (· ++ _) (find?_assign_ne "w-body" (by simp) (by simp) s false).2

/-- When all rules have been applied to an element with `w-body` that lies in a widget and is no root, the body
is rendered in the slot of its settled id. -/
theorem applyRules_slot {el : Element} {u : CompileUnit} {inLoop : Bool}
    (outer : (start el u inLoop).applyRules.isRoot = false) (inside : u.widgets ≠ [])
    (marked : el.has "w-body" = true) :
    ∃ a content, (start el u inLoop).applyRules.assigned = some a ∧
      (start el u inLoop).applyRules.appended = [slotCall a.absolute content] := by
  let t := (start el u inLoop).beforeBody
  have early : Edits el false (start el u inLoop) t := start_early el u inLoop
  have hinside : t.inWidget = true := early.inWidget (inWidget_iff.mpr inside)
  have hmarked : t.el.has "w-body" = true := (Element.has_congr early.early.1).trans marked
  have houter : t.isRoot = false := by
    by_contra root
    -- the last rule unmakes no root
    have last := start_late el u inLoop
    have hroot : (start el u inLoop).applyRules.isRoot = true := last.isRoot (by simpa using root)
    exact absurd (hroot.symm.trans outer) (by simp)
  rw [applyRules_eq, handleBody_eq hmarked hinside, houter, if_neg (by simp)]
  obtain ⟨a, content, ha, happended⟩ := fill_innerSlot (t.drop "w-body") (t.el.value? "w-body")
  have hdrop : ∀ s : Site, (s.drop "w-body").appended = s.appended := fun _ => rfl
  rw [hdrop, show t.appended = [] from early.early.2, List.nil_append] at happended
  exact ⟨a, content, ha, happended⟩

end Site

end WidgetTemplates.Compile
