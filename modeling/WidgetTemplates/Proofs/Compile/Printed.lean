import WidgetTemplates.Compile.RenderModule
import WidgetTemplates.Proofs.Template.Occurrence

/-!
# What is printed

The writer walks through a forest and writes static markup, statements, and the starts and ends of wrappers
and loops. `printedAll` lists these items for a forest, without a writer: the render function is what the writer
makes of the list (`generate_body`). A property of the printed module can thus be stated and proved as a
property of a list, or, where every item counts by itself, as one of the nodes that the items come from
(`mem_printedAll`).
-/

namespace WidgetTemplates.Compile

open Script (Expr Stmt)
open Template (Attribute Binding Element Node)

/-- A piece of the render function: static markup, a statement, the statement that writes what a function of the markup
helpers makes of the arguments, the starts of the functions that a widget is created around and that are run for each
item of a source, and the end of the innermost function. -/
inductive Item where
  | markup (text : String)
  | stmt (s : Stmt)
  | helper (function : String) (args : List Expr)
  | openWidget (b : Binding)
  | openLoop (item : String) (source : Expr)
  | close

/-- Writes an item. -/
def Writer.put (w : Writer) : Item → Writer
  | .markup text => w.markup text
  | .stmt s => w.stmt s
  | .helper function args => w.helperCall function args
  | .openWidget b =>
    w.indent (b.helper.print ++ "(out, " ++ b.widgetType.print ++ ", function (widget) \x7b")
  | .openLoop item source => w.indent (Writer.loopHeader item source)
  | .close => w.dedent "\x7d);"

/-- Writes items in order. -/
def Writer.putAll (w : Writer) (items : List Item) : Writer := items.foldl put w

/-! ## The items of a forest -/

/-- An attribute: a literal value is static markup, any other one is computed. -/
def printedAttr (a : Attribute) : Item :=
  match a.value with
  | none => .markup (" " ++ a.name)
  | some (.str value) => .markup (" " ++ a.name ++ "=\"" ++ Markup.escapeValue value ++ "\"")
  | some value => .helper "a" [.str a.name, value]

/-- The start of the wrapper of an element, if it has one. -/
def wrapperStart : Option Binding → List Item
  | none => []
  | some b => [.openWidget b]

/-- The end of the wrapper of an element, if it has one. -/
def wrapperEnd : Option Binding → List Item
  | none => []
  | some _ => [.close]

/-- The start tag of an element. -/
def startTag (el : Element) : List Item :=
  .markup ("<" ++ el.tag) :: (el.attributes.map printedAttr ++ [.markup ">"])

/-- The end tag of an element, if it has one. -/
def endTag (tag : String) : List Item :=
  if Template.isVoid tag then [] else [.markup ("</" ++ tag ++ ">")]

/-- What is printed before the children of an element. -/
def printedOpen (el : Element) : List Item :=
  el.before.map .stmt ++ wrapperStart el.widget ++ startTag el

/-- What is printed after the children of an element. -/
def printedClose (el : Element) : List Item :=
  endTag el.tag ++ wrapperEnd el.widget ++ el.after.map .stmt

mutual

/-- The items of a node. The children of an element without content are not printed. -/
def printed : Node → List Item
  | .element el children =>
    printedOpen el ++ (if Template.isVoid el.tag then [] else printedAll children) ++ printedClose el
  | .text value _ => [.markup (Markup.escapeText value)]
  | .expression expr _ => [.helper "x" [expr]]
  | .loop item source body _ => .openLoop item source :: printedAll body ++ [.close]
  | .code s => [.stmt s]

/-- The items of a forest. -/
def printedAll : List Node → List Item
  | [] => []
  | node :: rest => printed node ++ printedAll rest

end

/-- The items of two forests in a row. -/
theorem printedAll_append (nodes more : List Node) :
    printedAll (nodes ++ more) = printedAll nodes ++ printedAll more := by
  induction nodes with
  | nil => rfl
  | cons node rest ih => rw [List.cons_append, printedAll, printedAll, ih, List.append_assoc]

/-- Statements that are nodes are printed as they are. -/
theorem printedAll_statements (ss : List Stmt) : printedAll (ss.map .code) = ss.map .stmt := by
  induction ss with
  | nil => rfl
  | cons s rest ih =>
    rw [List.map_cons, printedAll, ih]
    rfl

/-! ## The statements in print -/

/-- The statement that an item is. -/
def Item.stmt? : Item → Option Stmt
  | .stmt s => some s
  | _ => none

/-- The statements in print, in order. What is computed for markup is none of them. -/
def statementsIn (items : List Item) : List Stmt := items.filterMap Item.stmt?

@[simp] theorem statementsIn_append (items more : List Item) :
    statementsIn (items ++ more) = statementsIn items ++ statementsIn more :=
  List.filterMap_append

@[simp] theorem statementsIn_statements (ss : List Stmt) : statementsIn (ss.map .stmt) = ss := by
  rw [statementsIn, List.filterMap_map]
  exact List.filterMap_some

/-- There is no statement in a start tag. -/
theorem statementsIn_startTag (el : Element) : statementsIn (startTag el) = [] := by
  have hattrs : ∀ item ∈ el.attributes.map printedAttr, item.stmt? = none := by
    intro item hitem
    obtain ⟨⟨name, value⟩, -, rfl⟩ := List.mem_map.mp hitem
    rcases value with _ | value
    · rfl
    · cases value <;> rfl
  rw [startTag, statementsIn, List.filterMap_cons_none rfl, List.filterMap_append, List.filterMap_eq_nil_iff.mpr hattrs]
  rfl

/-- Before the children of an element, only the statements before it are printed as such. -/
@[simp] theorem statementsIn_open (el : Element) : statementsIn (printedOpen el) = el.before := by
  have hwrapper : statementsIn (wrapperStart el.widget) = [] := by cases el.widget <;> rfl
  rw [printedOpen, statementsIn_append, statementsIn_append, statementsIn_statements, hwrapper, statementsIn_startTag,
    List.append_nil, List.append_nil]

/-- After the children of an element, only the statements after it are printed as such. -/
@[simp] theorem statementsIn_close (el : Element) : statementsIn (printedClose el) = el.after := by
  have hwrapper : statementsIn (wrapperEnd el.widget) = [] := by cases el.widget <;> rfl
  have htag : statementsIn (endTag el.tag) = [] := by
    rw [endTag]
    split <;> rfl
  rw [printedClose, statementsIn_append, statementsIn_append, statementsIn_statements, hwrapper, htag]
  rfl

/-! ## The items of the nodes themselves -/

/-- The items that a node itself is printed as, around those of the nodes in it. -/
def ownItems : Node → List Item
  | .element el _ => printedOpen el ++ printedClose el
  | .text value _ => [.markup (Markup.escapeText value)]
  | .expression expr _ => [.helper "x" [expr]]
  | .loop item source _ _ => [.openLoop item source, .close]
  | .code s => [.stmt s]

/-- What an element itself is printed as: the statements around it, its widget, its attributes and markup. -/
theorem mem_ownItems_element {el : Element} {children : List Node} {item : Item}
    (h : item ∈ ownItems (.element el children)) :
    (∃ s ∈ el.before ++ el.after, item = .stmt s) ∨ (∃ b ∈ el.widget, item = .openWidget b) ∨
      (∃ a ∈ el.attributes, item = printedAttr a) ∨ (∃ text, item = .markup text) ∨ item = .close := by
  have hstmts : ∀ {ss : List Stmt}, ss ⊆ el.before ++ el.after → item ∈ ss.map Item.stmt →
      ∃ s ∈ el.before ++ el.after, item = .stmt s := by
    intro ss hss hmem
    obtain ⟨s, hs, rfl⟩ := List.mem_map.mp hmem
    exact ⟨s, hss hs, rfl⟩
  simp only [ownItems, printedOpen, printedClose, startTag, List.mem_append, List.mem_cons, List.not_mem_nil,
    or_false] at h
  -- the parts of the print in their order
  rcases h with ((hbefore | hstart) | hmarkup | hattr | hmarkup) | ((hend | hwrap) | hafter)
  · exact .inl (hstmts (List.subset_append_left _ _) hbefore)
  · rcases hw : el.widget with _ | b
    · rw [hw] at hstart
      cases hstart
    · rw [hw] at hstart
      exact .inr (.inl ⟨b, rfl, List.mem_singleton.mp hstart⟩)
  · exact .inr (.inr (.inr (.inl ⟨_, hmarkup⟩)))
  · obtain ⟨a, ha, rfl⟩ := List.mem_map.mp hattr
    exact .inr (.inr (.inl ⟨a, ha, rfl⟩))
  · exact .inr (.inr (.inr (.inl ⟨_, hmarkup⟩)))
  · rw [endTag] at hend
    split at hend
    · cases hend
    · exact .inr (.inr (.inr (.inl ⟨_, List.mem_singleton.mp hend⟩)))
  · rcases hw : el.widget with _ | b
    · rw [hw] at hwrap
      cases hwrap
    · rw [hw] at hwrap
      exact .inr (.inr (.inr (.inr (List.mem_singleton.mp hwrap))))
  · exact .inl (hstmts (List.subset_append_right _ _) hafter)

/-- Every printed item belongs to a node. -/
theorem mem_printedAll (above : List Node) {nodes : List Node} {item : Item} (h : item ∈ printedAll nodes) :
    ∃ o ∈ Template.occurrencesAll above nodes, item ∈ ownItems o.node := by
  induction nodes using Template.forestInduction generalizing above with
  | nil => cases h
  | element el children rest inside after =>
    rw [printedAll, printed] at h
    simp only [List.mem_append] at h
    simp only [Template.occurrencesAll, Node.occurrences, List.cons_append, List.mem_cons, List.mem_append]
    rcases h with ((hopen | hchildren) | hclose) | hrest
    · exact ⟨_, .inl rfl, List.mem_append_left _ hopen⟩
    · split at hchildren
      · cases hchildren
      · obtain ⟨o, ho, hitem⟩ := inside (.element el children :: above) hchildren
        exact ⟨o, .inr (.inl ho), hitem⟩
    · exact ⟨_, .inl rfl, List.mem_append_right _ hclose⟩
    · obtain ⟨o, ho, hitem⟩ := after above hrest
      exact ⟨o, .inr (.inr ho), hitem⟩
  | loop loopItem source body location rest inside after =>
    rw [printedAll, printed] at h
    simp only [List.cons_append, List.mem_cons, List.mem_append, List.not_mem_nil, or_false] at h
    simp only [Template.occurrencesAll, Node.occurrences, List.cons_append, List.mem_cons, List.mem_append]
    rcases h with hopen | (hbody | hclose) | hrest
    · exact ⟨_, .inl rfl, by simp [ownItems, hopen]⟩
    · obtain ⟨o, ho, hitem⟩ := inside (.loop loopItem source body location :: above) hbody
      exact ⟨o, .inr (.inl ho), hitem⟩
    · exact ⟨_, .inl rfl, by simp [ownItems, hclose]⟩
    · obtain ⟨o, ho, hitem⟩ := after above hrest
      exact ⟨o, .inr (.inr ho), hitem⟩
  | _ =>
    rename_i after
    rw [printedAll, List.mem_append] at h
    simp only [Template.occurrencesAll, Node.occurrences, List.cons_append, List.nil_append, List.mem_cons]
    rcases h with hown | hrest
    · exact ⟨_, .inl rfl, hown⟩
    · obtain ⟨o, ho, hitem⟩ := after above hrest
      exact ⟨o, .inr ho, hitem⟩

/-! ## The writer writes these items -/

namespace Writer

variable (w : Writer)

@[simp] theorem putAll_nil : w.putAll [] = w := rfl

@[simp] theorem putAll_cons (item : Item) (rest : List Item) :
    w.putAll (item :: rest) = (w.put item).putAll rest := rfl

@[simp] theorem putAll_append (items more : List Item) :
    w.putAll (items ++ more) = (w.putAll items).putAll more :=
  List.foldl_append

@[simp] theorem putAll_stmts (ss : List Stmt) : w.putAll (ss.map .stmt) = w.stmts ss := by
  rw [putAll, stmts, List.foldl_map]
  rfl

/-- An attribute is written as its item. -/
theorem put_attr (a : Attribute) : w.put (printedAttr a) = w.writeAttr a := by
  rcases a with ⟨name, _ | value⟩
  · rfl
  · cases value <;> rfl

@[simp] theorem putAll_attrs (as : List Attribute) :
    w.putAll (as.map printedAttr) = as.foldl writeAttr w := by
  induction as generalizing w with
  | nil => rfl
  | cons a rest ih => rw [List.map_cons, putAll_cons, put_attr, ih, List.foldl_cons]

/-- What is written before the children of an element. -/
theorem putAll_open (el : Element) : w.putAll (printedOpen el) = w.openElement el := by
  unfold openElement printedOpen
  rcases el.widget with _ | b <;> simp [wrapperStart, startTag, put]

/-- What is written after the children of an element. -/
theorem putAll_close (el : Element) : w.putAll (printedClose el) = w.closeElement el := by
  unfold closeElement printedClose endTag
  rcases Template.isVoid el.tag with _ | _ <;> rcases el.widget with _ | b <;>
    simp [wrapperEnd, put]

mutual

/-- The writer writes the items of a node. -/
theorem putAll_printed (w : Writer) : (node : Node) → w.putAll (printed node) = w.node node
  | .element el children => by
    have hchildren : ∀ w : Writer,
        w.putAll (if Template.isVoid el.tag then [] else printedAll children)
          = if Template.isVoid el.tag then w else w.nodes children := by
      intro w
      split
      · rfl
      · exact putAll_printedAll w children
    rw [printed, putAll_append, putAll_append, putAll_open, hchildren, putAll_close]
    rfl
  | .text _ _ => rfl
  | .expression _ _ => rfl
  | .loop item source body _ => by
    rw [printed, List.cons_append, putAll_cons, putAll_append, putAll_printedAll _ body]
    rfl
  | .code _ => rfl

/-- The writer writes the items of a forest. -/
theorem putAll_printedAll (w : Writer) : (nodes : List Node) → w.putAll (printedAll nodes) = w.nodes nodes
  | [] => rfl
  | node :: rest => by
    rw [printedAll, putAll_append, putAll_printed w node, putAll_printedAll _ rest]
    rfl

end

end Writer

/-- The render function of a forest consists of its items. -/
theorem generate_body (u : CompileUnit) (nodes : List Node) :
    (generate u nodes).1.body = (Writer.putAll { unit := u } (printedAll nodes)).flush.lines := by
  rw [Writer.putAll_printedAll]
  rfl

end WidgetTemplates.Compile
