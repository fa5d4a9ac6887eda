import WidgetTemplates.Proofs.Compile.Printed
import WidgetTemplates.Proofs.Template.Occurrence

/-!
# The scope of `widget` in the tree and in print

A render function binds the name `widget` in the function around each widget, and nowhere else unless a loop
names its items so. `Template.Occurrence.KeepsScope` says of a node in a forest that it mentions `widget`
only inside a widget, and `Scoped` says the same of a list of printed items by following the functions that
are opened and closed. The two agree (`scoped_printedAll`), except that the writer passes over what stands in
an element without content.

What a template expression mentions is up to the reading `inText` of its text.
-/

namespace WidgetTemplates

namespace Template.Occurrence

/-- Whether a node keeps to the scope of `widget`: around an element `widget` is bound by a widget that
encloses it, and in its attributes also by its own. -/
def KeepsScope (inText : String → Prop) (o : Occurrence) : Prop :=
  (∀ e ∈ o.node.outerExprs, e.Mentions inText "widget" → o.inBound = true) ∧
    ∀ e ∈ o.node.innerExprs, e.Mentions inText "widget" → o.inBound = true ∨ o.node.isBound = true

/-- Whether no element around a node has a tag that is skipped. -/
def Reached (skip : String → Bool) (o : Occurrence) : Prop :=
  ∀ el children, .element el children ∈ o.above → skip el.tag = false

end Template.Occurrence

namespace Compile

open Script (Expr Stmt)
open Template (Attribute Binding Element Node Occurrence Throughout occurrencesAll)

/-! ## The scope of `widget` in print -/

/-- A function of the render function that is still open: that around a widget, which binds `widget`, or that of a loop,
which binds the name of its items. -/
inductive Binder where
  | wrapper
  | loop (item : String)

/-- Whether the innermost function that binds the name `widget` is the one around a widget. -/
def bindsWidget : List Binder → Bool
  | [] => false
  | .wrapper :: _ => true
  | .loop item :: rest => item != "widget" && bindsWidget rest

namespace Item

/-- The expressions of an item. -/
def exprs : Item → List Expr
  | .stmt s => [s.value]
  | .helper _ args => args
  | .openWidget b => [b.helper, b.widgetType]
  | .openLoop _ source => [source]
  | .markup _ | .close => []

/-- The open functions after an item. -/
def binders (opened : List Binder) : Item → List Binder
  | .openWidget _ => .wrapper :: opened
  | .openLoop item _ => .loop item :: opened
  | .close => opened.tail
  | _ => opened

end Item

section Scoped

variable (inText : String → Prop)

/-- Wherever a printed item mentions `widget`, that name is bound by the function around a widget. -/
def Scoped (opened : List Binder) : List Item → Prop
  | [] => True
  | item :: rest =>
    (∀ e ∈ item.exprs, e.Mentions inText "widget" → bindsWidget opened = true) ∧
      Scoped (item.binders opened) rest

/-- The open functions after several items. -/
def bindersAfter (opened : List Binder) (items : List Item) : List Binder := items.foldl Item.binders opened

variable {inText} {opened : List Binder}

/-- Items keep the scope exactly if the first ones do, and the others with the functions that these leave open. -/
theorem scoped_append {items more : List Item} :
    Scoped inText opened (items ++ more) ↔
      Scoped inText opened items ∧ Scoped inText (bindersAfter opened items) more := by
  induction items generalizing opened with
  | nil => simp [Scoped, bindersAfter]
  | cons item rest ih => simp [Scoped, bindersAfter, ih, and_assoc]

/-- The functions that are open after items depend on those that were open before them. -/
theorem bindersAfter_append {items more : List Item} :
    bindersAfter opened (items ++ more) = bindersAfter (bindersAfter opened items) more :=
  List.foldl_append

/-- Items that open and close nothing are all in one scope. -/
theorem scoped_flat {items : List Item} (flat : ∀ item ∈ items, ∀ b, item.binders b = b) :
    (Scoped inText opened items ↔
        ∀ item ∈ items, ∀ e ∈ item.exprs, e.Mentions inText "widget" → bindsWidget opened = true) ∧
      bindersAfter opened items = opened := by
  induction items with
  | nil => simp [Scoped, bindersAfter]
  | cons item rest ih =>
    obtain ⟨hscoped, hafter⟩ := ih fun i hi => flat i (List.mem_cons_of_mem item hi)
    have hitem := flat item (by simp) opened
    constructor
    · rw [Scoped, hitem, hscoped, List.forall_mem_cons]
    · rw [bindersAfter, List.foldl_cons, hitem]
      exact hafter

/-- Statements keep the scope exactly if each of them does. -/
theorem scoped_stmts {ss : List Stmt} :
    (Scoped inText opened (ss.map .stmt) ↔
        ∀ s ∈ ss, s.value.Mentions inText "widget" → bindsWidget opened = true) ∧
      bindersAfter opened (ss.map .stmt) = opened := by
  have flat : ∀ item ∈ ss.map Item.stmt, ∀ b, item.binders b = b := by simp [Item.binders]
  obtain ⟨hscoped, hafter⟩ := @scoped_flat inText opened _ flat
  exact ⟨hscoped.trans (by simp [Item.exprs]), hafter⟩

/-- An attribute opens and closes no function. -/
theorem binders_printedAttr (a : Attribute) (b : List Binder) : (printedAttr a).binders b = b := by
  rcases a with ⟨name, _ | value⟩
  · rfl
  · cases value <;> rfl

/-- An attribute mentions what its value mentions. -/
theorem mentions_printedAttr (a : Attribute) :
    (∃ e ∈ (printedAttr a).exprs, e.Mentions inText "widget") ↔
      ∃ e ∈ a.value, e.Mentions inText "widget" := by
  rcases a with ⟨name, _ | value⟩
  · simp [printedAttr, Item.exprs]
  · cases value <;> simp [printedAttr, Item.exprs]

/-- A start tag keeps the scope exactly if its attributes do. -/
theorem scoped_startTag {el : Element} :
    (Scoped inText opened (startTag el) ↔
        ∀ e ∈ el.attributes.filterMap (·.value), e.Mentions inText "widget" →
          bindsWidget opened = true) ∧
      bindersAfter opened (startTag el) = opened := by
  -- no item of a start tag opens or closes a function
  have flat : ∀ item ∈ startTag el, ∀ b, item.binders b = b := by
    intro item hitem
    rcases List.mem_cons.mp hitem with rfl | hitem
    · exact fun _ => rfl
    · rcases List.mem_append.mp hitem with hitem | hitem
      · obtain ⟨a, -, rfl⟩ := List.mem_map.mp hitem
        exact binders_printedAttr a
      · obtain rfl := List.mem_singleton.mp hitem
        exact fun _ => rfl
  obtain ⟨hscoped, hafter⟩ := @scoped_flat inText opened _ flat
  refine ⟨hscoped.trans ?_, hafter⟩
  have hattr : ∀ a : Attribute,
      (∀ e ∈ (printedAttr a).exprs, e.Mentions inText "widget" → bindsWidget opened = true) ↔
        ∀ e ∈ a.value, e.Mentions inText "widget" → bindsWidget opened = true := by
    intro a
    have := @mentions_printedAttr inText a
    grind
  simp only [startTag, List.forall_mem_cons, List.forall_mem_append, List.forall_mem_map, hattr]
  simp [Item.exprs]
  grind

/-- The open functions inside an element. -/
def innerBinders (opened : List Binder) (el : Element) : List Binder :=
  match el.widget with
  | none => opened
  | some _ => .wrapper :: opened

/-- Inside an element `widget` is bound by its own widget, or by one around it. -/
theorem bindsWidget_innerBinders (opened : List Binder) (el : Element) :
    bindsWidget (innerBinders opened el) = true ↔ bindsWidget opened = true ∨ el.widget.isSome = true := by
  rw [innerBinders]
  rcases el.widget with _ | b <;> simp [bindsWidget]

/-- The start of a wrapper keeps the scope exactly if its helper and its type do. -/
theorem scoped_wrapperStart {el : Element} :
    (Scoped inText opened (wrapperStart el.widget) ↔
        ∀ b ∈ el.widget, ∀ e ∈ [b.helper, b.widgetType], e.Mentions inText "widget" →
          bindsWidget opened = true) ∧
      bindersAfter opened (wrapperStart el.widget) = innerBinders opened el := by
  rw [innerBinders]
  rcases el.widget with _ | b <;> simp [wrapperStart, Scoped, Item.exprs, bindersAfter, Item.binders]

/-- The end of a wrapper mentions nothing and closes the function of its start. -/
theorem scoped_wrapperEnd {el : Element} :
    Scoped inText (innerBinders opened el) (wrapperEnd el.widget) ∧
      bindersAfter (innerBinders opened el) (wrapperEnd el.widget) = opened := by
  rw [innerBinders]
  rcases el.widget with _ | b <;> simp [wrapperEnd, Scoped, Item.exprs, bindersAfter, Item.binders]

/-- An end tag mentions nothing. -/
theorem scoped_endTag {tag : String} :
    Scoped inText opened (endTag tag) ∧ bindersAfter opened (endTag tag) = opened := by
  rw [endTag]
  split <;> simp [Scoped, Item.exprs, bindersAfter, Item.binders]

/-- The items of an element keep to the scope exactly if its expressions do, those in its attributes inside its
own widget, and the items of its children do. -/
theorem scoped_element {el : Element} {children : List Node} {inside : List Item}
    (hinside : (if Template.isVoid el.tag then [] else printedAll children) = inside)
    (balanced : bindersAfter (innerBinders opened el) inside = innerBinders opened el) :
    (Scoped inText opened (printed (.element el children)) ↔
        ((∀ e ∈ (Node.element el children).outerExprs, e.Mentions inText "widget" →
            bindsWidget opened = true) ∧
          ∀ e ∈ (Node.element el children).innerExprs, e.Mentions inText "widget" →
            bindsWidget (innerBinders opened el) = true) ∧
        Scoped inText (innerBinders opened el) inside) ∧
      bindersAfter opened (printed (.element el children)) = opened := by
  obtain ⟨hbefore, hbefore'⟩ := @scoped_stmts inText opened el.before
  obtain ⟨hstart, hstart'⟩ := @scoped_wrapperStart inText opened el
  obtain ⟨htag, htag'⟩ := @scoped_startTag inText (innerBinders opened el) el
  obtain ⟨hend, hend'⟩ := @scoped_endTag inText (innerBinders opened el) el.tag
  obtain ⟨hstop, hstop'⟩ := @scoped_wrapperEnd inText opened el
  obtain ⟨hafter, hafter'⟩ := @scoped_stmts inText opened el.after
  rw [printed, hinside, printedOpen, printedClose]
  constructor
  · simp only [scoped_append, bindersAfter_append, hbefore', hstart', htag', balanced, hend', hstop',
      hbefore, hstart, htag, hend, hstop, hafter, true_and, and_true]
    have houter : (∀ e ∈ (Node.element el children).outerExprs, e.Mentions inText "widget" →
        bindsWidget opened = true) ↔
        (∀ s ∈ el.before, s.value.Mentions inText "widget" → bindsWidget opened = true) ∧
        (∀ s ∈ el.after, s.value.Mentions inText "widget" → bindsWidget opened = true) ∧
        ∀ b ∈ el.widget, ∀ e ∈ [b.helper, b.widgetType], e.Mentions inText "widget" →
          bindsWidget opened = true := by
      rw [Node.outerExprs]
      rcases el.widget with _ | b <;> simp [or_imp, forall_and]
    rw [houter, Node.innerExprs]
    -- the two sides group the same conditions differently
    constructor
    · rintro ⟨⟨⟨⟨hb, hw⟩, ht⟩, hi⟩, ha⟩
      exact ⟨⟨⟨hb, ha, hw⟩, ht⟩, hi⟩
    · rintro ⟨⟨⟨hb, ha, hw⟩, ht⟩, hi⟩
      exact ⟨⟨⟨⟨hb, hw⟩, ht⟩, hi⟩, ha⟩
  · simp only [bindersAfter_append, hbefore', hstart', htag', balanced, hend', hstop', hafter']

/-- What is printed of a node and of what follows it, when the node opens and closes its own functions only. -/
theorem scoped_cons {node : Node} {rest : List Node}
    (balanced : bindersAfter opened (printed node) = opened) :
    (Scoped inText opened (printedAll (node :: rest)) ↔
        Scoped inText opened (printed node) ∧ Scoped inText opened (printedAll rest)) ∧
      bindersAfter opened (printedAll (node :: rest)) = bindersAfter opened (printedAll rest) := by
  rw [printedAll, scoped_append, bindersAfter_append, balanced]
  exact ⟨Iff.rfl, rfl⟩

/-- An element keeps the scope exactly if what is printed outside its wrapper does and what is printed inside does. -/
theorem keepsScope_element {above children : List Node} {el : Element}
    (scope : bindsWidget opened = above.any Node.isBound) :
    Occurrence.KeepsScope inText ⟨.element el children, above⟩ ↔
      (∀ e ∈ (Node.element el children).outerExprs, e.Mentions inText "widget" →
          bindsWidget opened = true) ∧
        ∀ e ∈ (Node.element el children).innerExprs, e.Mentions inText "widget" →
          bindsWidget (innerBinders opened el) = true := by
  rw [Occurrence.KeepsScope, Occurrence.inBound, bindsWidget_innerBinders, scope]
  rfl

/-- What is printed of a node that is a single item, and of what follows it. -/
theorem scoped_leaf {above : List Node} {node : Node} {rest : List Node} {item : Item}
    (single : printed node = [item]) (flat : ∀ b, item.binders b = b)
    (outer : node.outerExprs = item.exprs) (inner : node.innerExprs = [])
    (scope : bindsWidget opened = above.any Node.isBound)
    (reached : ∀ el children, .element el children ∈ above → Template.isVoid el.tag = false) :
    (Scoped inText opened (printedAll (node :: rest)) ↔
        (Occurrence.Reached Template.isVoid ⟨node, above⟩ → Occurrence.KeepsScope inText ⟨node, above⟩) ∧
          Scoped inText opened (printedAll rest)) ∧
      bindersAfter opened (printedAll (node :: rest)) = bindersAfter opened (printedAll rest) := by
  have hbalanced : bindersAfter opened (printed node) = opened := by
    rw [single]
    exact flat opened
  obtain ⟨hcons, hcons'⟩ := @scoped_cons inText opened node rest hbalanced
  refine ⟨?_, hcons'⟩
  have hreached : Occurrence.Reached Template.isVoid ⟨node, above⟩ := reached
  rw [hcons, single, Occurrence.KeepsScope, Occurrence.inBound, outer, inner, ← scope]
  simp [Scoped, hreached]

/-- What is printed of the children of an element: nothing if it has no content, and then its children do not
count in the tree either. -/
theorem scoped_children {above children : List Node} {el : Element} {inner : List Binder}
    (scope : bindsWidget inner = (Node.element el children :: above).any Node.isBound)
    (reached : ∀ el children, .element el children ∈ above → Template.isVoid el.tag = false)
    (inside : (∀ el' children', Node.element el' children' ∈ Node.element el children :: above →
        Template.isVoid el'.tag = false) →
      (Scoped inText inner (printedAll children) ↔
        Throughout (fun o => o.Reached Template.isVoid → o.KeepsScope inText)
          (.element el children :: above) children) ∧
        bindersAfter inner (printedAll children) = inner) :
    (Scoped inText inner (if Template.isVoid el.tag then [] else printedAll children) ↔
        Throughout (fun o => o.Reached Template.isVoid → o.KeepsScope inText)
          (.element el children :: above) children) ∧
      bindersAfter inner (if Template.isVoid el.tag then [] else printedAll children) = inner := by
  rcases hv : Template.isVoid el.tag with _ | _
  · refine inside ?_
    intro el' children' hmem
    rcases List.mem_cons.mp hmem with heq | hmem
    · obtain ⟨rfl, -⟩ := Node.element.inj heq
      exact hv
    · exact reached el' children' hmem
  · -- nothing is printed, and in the tree no child is reached
    refine ⟨iff_of_true trivial ?_, rfl⟩
    intro o ho hreached
    have hmem := Template.subset_above ho (List.mem_cons_self)
    exact absurd (hv.symm.trans (hreached el children hmem)) (by simp)

/-- **Print keeps to the scope of `widget` exactly if the tree does.** The items of a forest open and close their
own functions only, and they mention `widget` in its scope exactly if those nodes do that are printed. -/
theorem scoped_printedAll {above nodes : List Node}
    (scope : bindsWidget opened = above.any Node.isBound)
    (reached : ∀ el children, .element el children ∈ above → Template.isVoid el.tag = false)
    (items : Throughout (fun o => ¬ o.node.namesItems "widget") above nodes) :
    (Scoped inText opened (printedAll nodes) ↔
        Throughout (fun o => o.Reached Template.isVoid → o.KeepsScope inText) above nodes) ∧
      bindersAfter opened (printedAll nodes) = opened := by
  induction nodes using Template.forestInduction generalizing opened above with
  | nil => simp [printedAll, Scoped, bindersAfter]
  | element el children rest inside after =>
    rw [Template.throughout_element] at items
    obtain ⟨-, hchildren, hrest⟩ := items
    obtain ⟨hafter, hafter'⟩ := after scope reached hrest
    -- inside the element its own wrapper binds `widget` too
    have hscope : bindsWidget (innerBinders opened el)
        = (Node.element el children :: above).any Node.isBound := by
      rw [Bool.eq_iff_iff, bindsWidget_innerBinders, scope, List.any_cons, Bool.or_eq_true, or_comm]
      rfl
    obtain ⟨hinside, hbalanced⟩ := scoped_children hscope reached fun hreached =>
      inside hscope hreached hchildren
    obtain ⟨helement, helement'⟩ := @scoped_element inText opened el children _ rfl hbalanced
    obtain ⟨hcons, hcons'⟩ := @scoped_cons inText opened _ rest helement'
    refine ⟨?_, hcons'.trans hafter'⟩
    rw [hcons, helement, hinside, hafter, Template.throughout_element, ← keepsScope_element scope]
    have : Occurrence.Reached Template.isVoid ⟨.element el children, above⟩ := reached
    simp only [this, true_imp_iff, and_assoc]
  | loop item source body location rest inside after =>
    rw [Template.throughout_loop] at items
    obtain ⟨hname, hbody, hrest⟩ := items
    -- the function of a loop binds another name, so the binding around it stays
    have hscope : bindsWidget (.loop item :: opened)
        = (Node.loop item source body location :: above).any Node.isBound := by
      have hne : (item != "widget") = true := by simpa [Node.namesItems] using hname
      rw [bindsWidget, hne, Bool.true_and, scope]
      rfl
    have hreached : ∀ el children,
        Node.element el children ∈ Node.loop item source body location :: above →
          Template.isVoid el.tag = false := by
      intro el children hmem
      exact reached el children (by simpa using hmem)
    obtain ⟨hinside, hinside'⟩ := inside hscope hreached hbody
    obtain ⟨hafter, hafter'⟩ := after scope reached hrest
    have hloop : bindersAfter opened (printed (.loop item source body location)) = opened := by
      rw [printed, List.cons_append, bindersAfter, List.foldl_cons, ← bindersAfter, bindersAfter_append]
      rw [Item.binders, hinside']
      rfl
    obtain ⟨hcons, hcons'⟩ := @scoped_cons inText opened _ rest hloop
    refine ⟨?_, hcons'.trans hafter'⟩
    have hthis : Occurrence.Reached Template.isVoid ⟨.loop item source body location, above⟩ := reached
    rw [hcons, printed, List.cons_append, Scoped, scoped_append, Item.binders, hinside, hafter,
      Template.throughout_loop]
    simp [hthis, Occurrence.KeepsScope, Occurrence.inBound, Node.outerExprs, Node.innerExprs,
      Item.exprs, Scoped, scope, and_assoc]
  | text value location rest after =>
    rw [Template.throughout_text] at items
    obtain ⟨hafter, hafter'⟩ := after scope reached items.2
    obtain ⟨hcons, hcons'⟩ := @scoped_leaf inText opened above (.text value location) rest _ rfl
      (fun _ => rfl) rfl rfl scope reached
    exact ⟨by rw [hcons, hafter, Template.throughout_text], hcons'.trans hafter'⟩
  | expression expr location rest after =>
    rw [Template.throughout_expression] at items
    obtain ⟨hafter, hafter'⟩ := after scope reached items.2
    obtain ⟨hcons, hcons'⟩ := @scoped_leaf inText opened above (.expression expr location) rest _ rfl
      (fun _ => rfl) rfl rfl scope reached
    exact ⟨by rw [hcons, hafter, Template.throughout_expression], hcons'.trans hafter'⟩
  | code stmt rest after =>
    rw [Template.throughout_code] at items
    obtain ⟨hafter, hafter'⟩ := after scope reached items.2
    obtain ⟨hcons, hcons'⟩ := @scoped_leaf inText opened above (.code stmt) rest _ rfl
      (fun _ => rfl) rfl rfl scope reached
    exact ⟨by rw [hcons, hafter, Template.throughout_code], hcons'.trans hafter'⟩

end Scoped

end Compile

end WidgetTemplates
