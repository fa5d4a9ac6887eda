import WidgetTemplates.Proofs.Compile.Allocation
import WidgetTemplates.Proofs.Compile.Built
import WidgetTemplates.Proofs.Compile.DeferredWrites
import WidgetTemplates.Proofs.Template.Tidy

/-!
# Which expression texts an element carries

Weaving makes no expression texts, it only moves those of the template. Most of them stay with their element: what is
written around an element that is not bound holds only texts of the element itself. A root also learns where its body
goes, and when the template gives an id to the element that marks the place, the root borrows the texts of that id
(`Turn.borrowed`).

So a finished element carries its own texts and those that it has borrowed, and no others (`Turn.texts_finished`).
-/

namespace WidgetTemplates

open Script (Expr Stmt)

namespace Script.Expr

variable {code : String}

/-- A text is a part of some items exactly if it is a text of one of them. -/
theorem raw_mem_partsAll {items : List Expr} : .raw code ∈ partsAll items ↔ ∃ e ∈ items, code ∈ e.texts := by
  induction items with
  | nil => simp [partsAll]
  | cons e rest ih => simp [partsAll, ih, mem_texts]

theorem mem_texts_member {object : Expr} {key : String} : code ∈ (object.member key).texts ↔ code ∈ object.texts := by
  simp [mem_texts, parts]

theorem mem_texts_call {callee : Expr} {args : List Expr} :
    code ∈ (callee.call args).texts ↔ code ∈ callee.texts ∨ ∃ e ∈ args, code ∈ e.texts := by
  rw [mem_texts, mem_texts, ← raw_mem_partsAll]
  simp [parts]

theorem mem_texts_array {items : List Expr} : code ∈ (array items).texts ↔ ∃ e ∈ items, code ∈ e.texts := by
  rw [mem_texts, ← raw_mem_partsAll]
  simp [parts]

theorem mem_texts_concat {operands : List Expr} : code ∈ (concat operands).texts ↔ ∃ e ∈ operands, code ∈ e.texts := by
  rw [mem_texts, ← raw_mem_partsAll]
  simp [parts]

end Script.Expr

namespace Compile

open Template (Attribute Binding Element Node)

/-! ## The texts of what is built -/

/-- A template that holds no expression texts but these, woven in a module with these variables. -/
def textSources (codes : List String) (declarations : List Declaration) : Sources where
  expr e := e.texts ⊆ codes
  stmt s := s.value.texts ⊆ codes
  binding b := b.helper.texts ⊆ codes ∧ b.widgetType.texts ⊆ codes
  item _ := True
  declarations := declarations

variable {codes : List String} {ds : List Declaration}

/-- A node whose texts are among the given ones can be drawn on. -/
theorem givenNode_of_texts {node : Node} (texts : node.texts ⊆ codes) : GivenNode (textSources codes ds) node := by
  have hexprs : ∀ e ∈ node.exprs, e.texts ⊆ codes :=
    fun e he code hcode => texts (List.mem_flatMap.mpr ⟨e, he, hcode⟩)
  refine givenNode_of_exprs hexprs (fun stmt hs => hexprs _ (Node.value_mem_exprs hs)) ?_ fun _ _ => trivial
  intro b hb
  have hmem := Node.mem_exprs_of_binding hb
  exact ⟨hexprs b.helper (hmem _ (by simp)), hexprs b.widgetType (hmem _ (by simp))⟩

/-- What is built holds no other texts. -/
theorem BuiltExpr.texts {e : Expr} (h : BuiltExpr (textSources codes ds) e) : e.texts ⊆ codes := by
  induction h with
  | given own => exact own
  | member built known ih => exact fun code hcode => ih (Expr.mem_texts_member.mp hcode)
  | call built all ih ihAll =>
    intro code hcode
    rcases Expr.mem_texts_call.mp hcode with hcallee | ⟨e, he, harg⟩
    · exact ih hcallee
    · exact ihAll e he harg
  | array all ih =>
    intro code hcode
    obtain ⟨e, he, hitem⟩ := Expr.mem_texts_array.mp hcode
    exact ih e he hitem
  | concat all ih =>
    intro code hcode
    obtain ⟨e, he, hoperand⟩ := Expr.mem_texts_concat.mp hcode
    exact ih e he hoperand
  | _ => exact List.nil_subset codes

/-- A call of a name with such arguments holds no other texts. -/
theorem texts_call_of_built {callee : String} {args : List Expr}
    (built : ∀ e ∈ args, BuiltExpr (textSources codes ds) e) : ((Expr.ident callee).call args).texts ⊆ codes := by
  intro code hcode
  rcases Expr.mem_texts_call.mp hcode with hcallee | ⟨e, he, harg⟩
  · cases hcallee
  · exact (built e he).texts harg

/-- A statement that weaving builds has none but the given texts. -/
theorem BuiltStmt.texts {stmt : Stmt} (h : BuiltStmt (textSources codes ds) stmt) : stmt.value.texts ⊆ codes := by
  cases h with
  | given own => exact own
  | idVariable n built => exact built.texts
  | slot place content helper =>
    have hout : BuiltExpr (textSources codes ds) .out := .parameter (by decide)
    have hwidget : BuiltExpr (textSources codes ds) Expr.widget := .parameter (by decide)
    refine texts_call_of_built (List.forall_mem_cons.mpr ⟨hout, ?_⟩)
    simp only [List.forall_mem_cons]
    exact ⟨place, content, hwidget, List.forall_mem_nil _⟩
  | deposit args helper => exact texts_call_of_built args
  | clear helper =>
    have hout : BuiltExpr (textSources codes ds) .out := .parameter (by decide)
    exact texts_call_of_built (List.forall_mem_singleton.mpr hout)

/-- An element that weaving builds has none but the given texts. -/
theorem BuiltElement.texts {el : Element} (h : BuiltElement (textSources codes ds) el) (children : List Node) :
    (Node.element el children).texts ⊆ codes := by
  intro code hcode
  obtain ⟨e, he, hcode⟩ := List.mem_flatMap.mp hcode
  rw [Node.exprs, List.mem_append, Node.outerExprs, List.mem_append] at he
  rcases he with (hstmt | hwidget) | hvalue
  · obtain ⟨stmt, hmem, rfl⟩ := List.mem_map.mp hstmt
    exact ((List.mem_append.mp hmem).elim (h.before stmt) (h.after stmt)).texts hcode
  · rcases hb : el.widget with _ | b
    · rw [hb] at hwidget
      cases hwidget
    · rw [hb] at hwidget
      have hbinding : b.helper.texts ⊆ codes ∧ b.widgetType.texts ⊆ codes := by
        cases h.widget b hb with
        | given own => exact own
        | root built helper => exact ⟨List.nil_subset codes, built.texts⟩
      rcases List.mem_cons.mp hwidget with rfl | hwidget
      · exact hbinding.1 hcode
      · obtain rfl := List.mem_singleton.mp hwidget
        exact hbinding.2 hcode
  · obtain ⟨a, ha, he⟩ := List.mem_filterMap.mp hvalue
    exact (h.attributes a ha e he).texts hcode

/-! ## The texts of one element -/

/-- The expression texts in the id that the template gives an element. -/
def idTexts (el : Element) : List String := ((el.value? "w-id").map Expr.texts).getD []

/-- The value of an attribute has none but the texts of its element. -/
theorem texts_subset_of_value {el : Element} {name : String} {e : Expr} (found : el.value? name = some e)
    (children : List Node) : e.texts ⊆ (Node.element el children).texts := by
  obtain ⟨a, ha, hvalue⟩ := Option.bind_eq_some_iff.mp found
  have hmem : e ∈ (Node.element el children).exprs :=
    List.mem_append_right _ (List.mem_filterMap.mpr ⟨a, Element.find?_mem ha, hvalue⟩)
  exact fun code hcode => List.mem_flatMap.mpr ⟨e, hmem, hcode⟩

/-- The texts of an id are texts of its element. -/
theorem idTexts_subset (el : Element) (children : List Node) : idTexts el ⊆ (Node.element el children).texts := by
  rw [idTexts]
  rcases he : el.value? "w-id" with _ | e
  · exact List.nil_subset _
  · exact texts_subset_of_value he children

/-- The type that stands for a value holds the texts of the value, if any. -/
theorem texts_widgetTypeOf? {u u' : CompileUnit} {value : Option Expr} {widgetType : Expr}
    (h : u.widgetTypeOf? value = some (widgetType, u')) : widgetType.texts = [] ∨ value = some widgetType := by
  rcases Site.widgetTypeOf?_cases h with ⟨hvalue, -⟩ | ⟨path, hpath⟩
  · exact .inr hvalue
  · obtain ⟨d, -, hident, -⟩ := Site.widgetType_declared u path
    have htype : widgetType = .ident d.name := (congrArg Prod.fst hpath).trans hident
    rw [htype]
    exact .inl rfl

namespace Turn

variable (t : Turn)

/-- The element and its children, as weaving finds them. -/
def node : Node := .element t.el t.children

/-- The expression texts that a root learns from inside: those of the id that the template gives the last element that
marks the place of the root's body. -/
def borrowed : List String :=
  if t.bound then
    ((marking (looseTurnsAll t.inLoop t.site.unit t.children)).getLast?.map fun x => idTexts x.el).getD []
  else []

variable {t}

/-- The settled id of an element in a widget that is not bound is the one that the template gives, or a number. -/
theorem chosen_of_loose (loose : t.bound = false) (inside : t.unit.widgets ≠ []) {a : AssignedId}
    (settled : t.site.assigned = some a) : a.Chosen (t.el.value? "w-id") t.unit.nextId t.site.unit.nextId := by
  have hvalue : t.entered.el.value? "w-id" = t.el.value? "w-id" := by
    rw [Element.value?, t.find?_id_entered loose, Element.value?]
  have hchosen := (t.choosesId_site (t.inWidget_entered_of_loose loose inside)).settled a settled
  rwa [hvalue] at hchosen

/-- The place of a body in an element that is not bound holds the texts of the given id. -/
theorem texts_place (loose : t.bound = false) (inside : t.unit.widgets ≠ []) (marked : marksBody t.el = true) :
    t.place.texts = idTexts t.el := by
  have hbody : t.el.has "w-body" = true := (Bool.and_eq_true_iff.mp marked).1
  obtain ⟨a, -, settled, -⟩ := Site.applyRules_slot (t.isRoot_site.trans loose) inside hbody
  have hid : t.site.id = a := Site.id_of_settled settled
  rw [place, if_neg (by simp [loose]), hid, idTexts]
  have hchosen := chosen_of_loose loose inside settled
  generalize t.site.unit.nextId = next at hchosen
  cases hchosen with
  | explicit given forms => rw [given, forms.1]; rfl
  | numbered free number =>
    rw [free]
    rcases number with ⟨hnested, -⟩ | ⟨hnested, -⟩ <;> rw [hnested] <;> rfl

/-- What is pending when a root is finished holds the texts that it has borrowed. -/
theorem texts_pending (bound : t.bound = true) :
    ((marking t.own).getLast?.map fun x => x.place.texts).getD [] = t.borrowed := by
  obtain ⟨a, widgetType, u, -, -, hsite⟩ := t.widgets_site_of_bound bound
  have hopened : t.site.unit.widgets ≠ [] := by
    rw [hsite]
    exact List.cons_ne_nil _ _
  have hself : t.place.texts = [] := by
    rw [place, if_pos bound]
    rfl
  have hplaces : (marking (looseTurnsAll t.inLoop t.site.unit t.children)).getLast?.map (fun x => x.place.texts) =
      (marking (looseTurnsAll t.inLoop t.site.unit t.children)).getLast?.map fun x => idTexts x.el := by
    refine Option.map_congr fun x hx => ?_
    obtain ⟨hmem, hmarked⟩ := List.mem_filter.mp (List.mem_of_getLast? hx)
    obtain ⟨hloose, hinside⟩ := inside_of_mem_looseTurnsAll hopened hmem
    exact texts_place hloose hinside hmarked
  rw [borrowed, if_pos bound, ← hplaces, own, marking_cons]
  split
  · -- if the root is the only one that marks a place, the mark is empty
    rw [List.getLast?_cons]
    rcases (marking (looseTurnsAll t.inLoop t.site.unit t.children)).getLast? with _ | x
    · exact hself
    · rfl
  · rfl

variable (t)

/-- **A finished element is built of its own texts and of those that it has borrowed.** -/
theorem built_finished :
    t.finished.Built (textSources (t.node.texts ++ t.borrowed) t.finished.unit.declarations) := by
  have hown : t.node.texts ⊆ t.node.texts ++ t.borrowed := List.subset_append_left _ _
  have hgiven : GivenNode (textSources (t.node.texts ++ t.borrowed) t.finished.unit.declarations) t.node :=
    givenNode_of_texts hown
  have hinside : t.site.unit.declarations ⊆ t.finished.unit.declarations :=
    List.Subset.trans (weaveForest_woven t.inLoop t.site.unit t.children).extends.subset
      (Site.extends_finished t.el t.unit t.inside t.inLoop).subset
  have hstart : (Site.start t.el t.unit t.inLoop).Built _ := .start (.of_given hgiven)
  have hsite : t.site.Built _ := t.site_edits.built (.of_given hgiven) hinside hstart
  rw [finished_eq_close] at hsite ⊢
  refine Site.Built.close (hsite.withUnit t.inside) (List.Subset.refl _) ?_
  intro root w hw
  -- what closing writes into a root has been learned by its widget: the type, which the element names itself, and the
  -- mark of the last slot inside, whose text is borrowed
  have hbound : t.bound = true := t.isRoot_site.symm.trans root
  obtain ⟨w', hwidgets, ⟨a, u, ha, ht⟩, -, hpending⟩ := t.inside_taught hbound
  have htop : t.inside.widgets.head? = some w := hw
  rw [hwidgets] at htop
  obtain rfl := Option.some.inj htop
  refine ⟨.given (show w'.widgetType.texts ⊆ t.node.texts ++ t.borrowed from ?_), ?_⟩
  · rcases texts_widgetTypeOf? ht with hnone | hvalue
    · rw [hnone]
      exact List.nil_subset _
    · have hfound : t.el.value? "w-bind" = some w'.widgetType := by
        rw [Element.value?, ha]
        exact hvalue
      exact List.Subset.trans (texts_subset_of_value hfound t.children) hown
  · have htexts := texts_pending hbound
    rw [hpending]
    rcases hlast : (marking t.own).getLast? with _ | x
    · exact List.forall_mem_nil _
    · rw [hlast] at htexts
      have hplace : x.place.texts ⊆ t.node.texts ++ t.borrowed := htexts ▸ List.subset_append_right _ _
      exact List.forall_mem_singleton.mpr (.given hplace)

/-- What a finished element carries are its own texts and those that it has borrowed. -/
theorem texts_finished (children : List Node) :
    (Node.element t.woven children).texts ⊆ t.node.texts ++ t.borrowed ∧
      ∀ stmt ∈ t.finished.appended, (Node.code stmt).texts ⊆ t.node.texts ++ t.borrowed := by
  refine ⟨t.built_finished.el.texts children, fun stmt hstmt => ?_⟩
  have htexts := (t.built_finished.appended stmt hstmt).texts
  intro code hcode
  obtain ⟨e, he, hcode⟩ := List.mem_flatMap.mp hcode
  obtain rfl : e = stmt.value := by simpa [Node.exprs, Node.outerExprs, Node.innerExprs] using he
  exact htexts hcode

/-- A root carries all texts that it has borrowed. -/
theorem borrowed_subset (children : List Node) : t.borrowed ⊆ (Node.element t.woven children).texts := by
  rcases hb : t.bound with _ | _
  · rw [borrowed, hb]
    exact List.nil_subset _
  · obtain ⟨w, el, hwoven, -, -, -, hpending⟩ := t.finished_taught hb
    have hbody := (find?_finishRoot el (pending_taught hpending)).2.2.2
    rw [← hwoven, OpenWidget.value?, hpending] at hbody
    rw [← texts_pending hb]
    rcases hlast : (marking t.own).getLast? with _ | x
    · exact List.nil_subset _
    · rw [hlast] at hbody
      have hvalue : t.woven.value? "data-w-body" = some x.place := by
        rw [Element.value?, hbody]
        rfl
      exact texts_subset_of_value hvalue children

end Turn

end Compile

end WidgetTemplates
