import WidgetTemplates.Proofs.Script.Subexpression
import WidgetTemplates.Template.Node

/-!
# Places in a template

Most properties of templates speak about every node of a forest and about the nodes that enclose it.
`occurrencesAll` lists the nodes of a forest in document order, each with the nodes around it, so that
such a property is a statement about the members of one list. The lemmas split that list along the
recursion on forests.
-/

namespace WidgetTemplates.Template

open Script (Expr Stmt)

/-- A node of a forest with the elements and loops that enclose it, innermost first. -/
structure Occurrence where
  node : Node
  above : List Node

mutual

/-- The nodes of a tree in document order, the tree standing below the nodes `above`. -/
def Node.occurrences (above : List Node) : Node → List Occurrence
  | .element el children =>
    ⟨.element el children, above⟩ :: occurrencesAll (.element el children :: above) children
  | .loop item source body location =>
    ⟨.loop item source body location, above⟩
      :: occurrencesAll (.loop item source body location :: above) body
  | node => [⟨node, above⟩]

/-- The nodes of a forest in document order, the forest standing below the nodes `above`. -/
def occurrencesAll (above : List Node) : List Node → List Occurrence
  | [] => []
  | node :: rest => node.occurrences above ++ occurrencesAll above rest

end

/-- The nodes of two forests in a row. -/
theorem occurrencesAll_append (above nodes more : List Node) :
    occurrencesAll above (nodes ++ more) = occurrencesAll above nodes ++ occurrencesAll above more := by
  induction nodes with
  | nil => rfl
  | cons node rest ih => rw [List.cons_append, occurrencesAll, occurrencesAll, ih, List.append_assoc]

/-- Every node of a forest has the property `p`, given the nodes around it. -/
def Throughout (p : Occurrence → Prop) (above : List Node) (nodes : List Node) : Prop :=
  ∀ o ∈ occurrencesAll above nodes, p o

/-- Induction over forests: an element or a loop is treated with what stands in it and what follows it. -/
@[elab_as_elim]
theorem forestInduction {motive : List Node → Prop} (nil : motive [])
    (element : ∀ el children rest, motive children → motive rest →
      motive (.element el children :: rest))
    (loop : ∀ item source body location rest, motive body → motive rest →
      motive (.loop item source body location :: rest))
    (text : ∀ value location rest, motive rest → motive (.text value location :: rest))
    (expression : ∀ expr location rest, motive rest → motive (.expression expr location :: rest))
    (code : ∀ stmt rest, motive rest → motive (.code stmt :: rest)) :
    (nodes : List Node) → motive nodes
  | [] => nil
  | .element el children :: rest =>
    element el children rest
      (forestInduction nil element loop text expression code children)
      (forestInduction nil element loop text expression code rest)
  | .loop item source body location :: rest =>
    loop item source body location rest
      (forestInduction nil element loop text expression code body)
      (forestInduction nil element loop text expression code rest)
  | .text value location :: rest =>
    text value location rest (forestInduction nil element loop text expression code rest)
  | .expression expr location :: rest =>
    expression expr location rest (forestInduction nil element loop text expression code rest)
  | .code stmt :: rest =>
    code stmt rest (forestInduction nil element loop text expression code rest)

section Throughout

variable {p : Occurrence → Prop} {above rest : List Node}

section Unfold

attribute [local simp] Throughout occurrencesAll Node.occurrences

@[simp] theorem throughout_nil : Throughout p above [] := by
  simp

@[simp] theorem throughout_element {el : Element} {children : List Node} :
    Throughout p above (.element el children :: rest) ↔
      p ⟨.element el children, above⟩ ∧ Throughout p (.element el children :: above) children ∧
        Throughout p above rest := by
  simp [or_imp, forall_and]

@[simp] theorem throughout_loop {item : String} {source : Expr} {body : List Node}
    {location : Location} :
    Throughout p above (.loop item source body location :: rest) ↔
      p ⟨.loop item source body location, above⟩ ∧
        Throughout p (.loop item source body location :: above) body ∧
          Throughout p above rest := by
  simp [or_imp, forall_and]

@[simp] theorem throughout_text {value : String} {location : Location} :
    Throughout p above (.text value location :: rest) ↔
      p ⟨.text value location, above⟩ ∧ Throughout p above rest := by
  simp

@[simp] theorem throughout_expression {expr : Expr} {location : Location} :
    Throughout p above (.expression expr location :: rest) ↔
      p ⟨.expression expr location, above⟩ ∧ Throughout p above rest := by
  simp

@[simp] theorem throughout_code {stmt : Stmt} :
    Throughout p above (.code stmt :: rest) ↔
      p ⟨.code stmt, above⟩ ∧ Throughout p above rest := by
  simp

end Unfold

/-- Throughout statements that are nodes. -/
theorem throughout_statements {stmts : List Stmt} :
    Throughout p above (stmts.map .code) ↔ ∀ stmt ∈ stmts, p ⟨.code stmt, above⟩ := by
  induction stmts with
  | nil => simp
  | cons stmt rest ih => simp [ih]

/-- Throughout two forests in a row. -/
theorem throughout_append {nodes more : List Node} :
    Throughout p above (nodes ++ more) ↔ Throughout p above nodes ∧ Throughout p above more := by
  rw [Throughout, occurrencesAll_append, List.forall_mem_append]
  rfl

end Throughout

/-! ## Properties of the nodes themselves -/

/-- A property of the nodes themselves does not depend on what encloses the forest. -/
theorem throughout_above {p : Node → Prop} (above above' : List Node) {nodes : List Node} :
    Throughout (fun o => p o.node) above nodes ↔ Throughout (fun o => p o.node) above' nodes := by
  induction nodes using forestInduction generalizing above above' with
  | nil => simp
  | element el children rest inside after =>
    rw [throughout_element, throughout_element, inside, after]
  | loop item source body location rest inside after =>
    rw [throughout_loop, throughout_loop, inside, after]
  | text value location rest after => rw [throughout_text, throughout_text, after]
  | expression expr location rest after => rw [throughout_expression, throughout_expression, after]
  | code stmt rest after => rw [throughout_code, throughout_code, after]

/-- Every node of a forest has the property `p`, whatever stands around it. -/
def Everywhere (p : Node → Prop) (nodes : List Node) : Prop := Throughout (fun o => p o.node) [] nodes

section Everywhere

variable {p : Node → Prop} {rest : List Node}

/-- Everywhere in a forest that starts with an element. -/
theorem everywhere_element {el : Element} {children : List Node} :
    Everywhere p (.element el children :: rest) ↔
      p (.element el children) ∧ Everywhere p children ∧ Everywhere p rest := by
  rw [Everywhere, throughout_element, throughout_above (p := p) _ []]
  rfl

/-- Everywhere in a forest that starts with a loop. -/
theorem everywhere_loop {item : String} {source : Expr} {body : List Node} {location : Location} :
    Everywhere p (.loop item source body location :: rest) ↔
      p (.loop item source body location) ∧ Everywhere p body ∧ Everywhere p rest := by
  rw [Everywhere, throughout_loop, throughout_above (p := p) _ []]
  rfl

end Everywhere

/-- Whatever encloses a forest encloses every node of it. -/
theorem subset_above {above nodes : List Node} {o : Occurrence} (h : o ∈ occurrencesAll above nodes) :
    above ⊆ o.above := by
  induction nodes using forestInduction generalizing above with
  | nil => simp [occurrencesAll] at h
  | element el children rest inside after =>
    simp only [occurrencesAll, Node.occurrences, List.cons_append, List.mem_cons, List.mem_append] at h
    rcases h with rfl | h | h
    · exact List.Subset.refl above
    · exact fun n hn => inside h (List.mem_cons_of_mem _ hn)
    · exact after h
  | loop item source body location rest inside after =>
    simp only [occurrencesAll, Node.occurrences, List.cons_append, List.mem_cons, List.mem_append] at h
    rcases h with rfl | h | h
    · exact List.Subset.refl above
    · exact fun n hn => inside h (List.mem_cons_of_mem _ hn)
    · exact after h
  | _ =>
    rename_i after
    simp only [occurrencesAll, Node.occurrences, List.cons_append, List.nil_append,
      List.mem_cons] at h
    rcases h with rfl | h
    · exact List.Subset.refl above
    · exact after h

/-! ## What a node is and what it carries -/

namespace Node

/-- Whether a node is a loop. -/
def isLoop : Node → Bool
  | .loop .. => true
  | _ => false

/-- Whether a node is an element that is wrapped in a widget. -/
def isBound : Node → Bool
  | .element el _ => el.widget.isSome
  | _ => false

/-- Whether a node is a loop that gives its items this name. -/
def namesItems (name : String) : Node → Prop
  | .loop item .. => item = name
  | _ => False

/-- The expressions of a node that stand outside the widget it is wrapped in, if it is wrapped in one:
those of the statements around an element and those that create the widget. -/
def outerExprs : Node → List Expr
  | .element el _ =>
    (el.before ++ el.after).map Stmt.value
      ++ (match el.widget with | none => [] | some b => [b.helper, b.widgetType])
  | .expression expr _ => [expr]
  | .loop _ source _ _ => [source]
  | .code stmt => [stmt.value]
  | .text .. => []

/-- The expressions of a node that stand inside its widget: the attribute values of an element. -/
def innerExprs : Node → List Expr
  | .element el _ => el.attributes.filterMap (·.value)
  | _ => []

/-- All expressions that a node itself carries. -/
def exprs (node : Node) : List Expr := node.outerExprs ++ node.innerExprs

/-- The statements around an element, or that a node is. -/
def statements : Node → List Stmt
  | .element el _ => el.before ++ el.after
  | .code stmt => [stmt]
  | _ => []

/-- The widget that a node is wrapped in. -/
def binding? : Node → Option Binding
  | .element el _ => el.widget
  | _ => none

/-- The name that a loop gives its items. -/
def item? : Node → Option String
  | .loop item .. => some item
  | _ => none

/-- The expression of a statement of a node is one of the node. -/
theorem value_mem_exprs {node : Node} {stmt : Stmt} (h : stmt ∈ node.statements) : stmt.value ∈ node.exprs := by
  cases node with
  | element el children => exact List.mem_append_left _ (List.mem_append_left _ (List.mem_map_of_mem h))
  | code => exact List.mem_append_left _ (List.mem_map_of_mem (f := Stmt.value) h)
  | _ => cases h

/-- The expressions of the widget of a node are among those of the node. -/
theorem mem_exprs_of_binding {node : Node} {b : Binding} (h : node.binding? = some b) :
    ∀ e ∈ [b.helper, b.widgetType], e ∈ node.exprs := by
  intro e he
  cases node with
  | element el children =>
    have hwidget : el.widget = some b := h
    simp only [exprs, outerExprs, hwidget]
    exact List.mem_append_left _ (List.mem_append_right _ he)
  | _ => cases h

/-- A node as it is read from a template: no statement has been put around it and no widget. -/
def isFresh : Node → Prop
  | .element el _ => el.before = [] ∧ el.after = [] ∧ el.widget = none
  | .code _ => False
  | _ => True

end Node

namespace Occurrence

/-- Whether the node lies below a loop. -/
def inLoop (o : Occurrence) : Bool := o.above.any Node.isLoop

/-- Whether the node lies below an element that is wrapped in a widget. -/
def inBound (o : Occurrence) : Bool := o.above.any Node.isBound

end Occurrence

end WidgetTemplates.Template
