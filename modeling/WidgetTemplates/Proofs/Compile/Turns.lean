import WidgetTemplates.Proofs.Compile.Roots
import WidgetTemplates.Proofs.Template.Occurrence

/-!
# The turns of the elements

Weaving comes to the elements of a forest one after another, and to each in the state of the compile unit that the
ones before it have left. `turnsAll` lists these turns in document order, so that what weaving makes of an element can
be compared with what it found there: the elements of the forest are those of the turns, and the elements of the woven
forest are those that the turns end with (`elementsAll_weaveForest`).

`Turn.own` lists the turns of the elements that belong to a root: itself, and those inside it that are not inside a
further root.
-/

namespace WidgetTemplates.Compile

open Script (Expr Stmt)
open Template (Element Node)

/-- The turn of an element: what weaving finds when it comes to it. That is the element with its children, the compile
unit, and whether the element lies below a loop. -/
structure Turn where
  el : Element
  children : List Node
  unit : CompileUnit
  inLoop : Bool

namespace Turn

variable (t : Turn)

/-- The site of the element when the rules have been applied. -/
def site : Site := (Site.start t.el t.unit t.inLoop).applyRules

/-- Whether the element is bound: the rule for `w-bind` makes it the root of a widget. -/
def bound : Bool := (Site.start t.el t.unit t.inLoop).bind.isRoot

/-- The compile unit after the children. -/
def inside : CompileUnit := (weaveForest t.inLoop t.site.unit t.children).2

/-- The site of the finished element. -/
def finished : Site := Site.finished t.el t.unit t.inLoop t.inside

/-- What weaving makes of the element. -/
def woven : Element := t.finished.el

/-- What the rules do to the element. -/
theorem site_edits : Site.Edits t.el true (Site.start t.el t.unit t.inLoop) t.site :=
  Site.start_edits t.el t.unit t.inLoop

/-- An element is closed in the unit after its children. -/
theorem finished_eq_close : t.finished = ({ t.site with unit := t.inside } : Site).close := rfl

/-- The site of a turn is a root exactly if the element opens a widget. -/
theorem isRoot_site : t.site.isRoot = t.bound := by
  rw [site, Site.isRoot_applyRules, bound, Site.isRoot_bind rfl]
  rfl

end Turn

/-! ## The turns of a forest -/

mutual

/-- The turns of a node, in document order. -/
def turns (inLoop : Bool) (u : CompileUnit) : Node → List Turn
  | .element el children =>
    let t : Turn := ⟨el, children, u, inLoop⟩
    t :: turnsAll inLoop t.site.unit children
  | .loop _ _ body _ => turnsAll true u body
  | _ => []

/-- The turns of a forest, in document order. -/
def turnsAll (inLoop : Bool) (u : CompileUnit) : List Node → List Turn
  | [] => []
  | node :: rest => turns inLoop u node ++ turnsAll inLoop (weaveNode inLoop u node).2 rest

end

mutual

/-- The turns of a node outside the widgets that open in it. -/
def looseTurns (inLoop : Bool) (u : CompileUnit) : Node → List Turn
  | .element el children =>
    let t : Turn := ⟨el, children, u, inLoop⟩
    if t.bound then [] else t :: looseTurnsAll inLoop t.site.unit children
  | .loop _ _ body _ => looseTurnsAll true u body
  | _ => []

/-- The turns of a forest outside the widgets that open in it. -/
def looseTurnsAll (inLoop : Bool) (u : CompileUnit) : List Node → List Turn
  | [] => []
  | node :: rest => looseTurns inLoop u node ++ looseTurnsAll inLoop (weaveNode inLoop u node).2 rest

end

/-- If the element is bound, the turns of the elements whose nearest bound element, counting themselves, it is. -/
def Turn.own (t : Turn) : List Turn := t :: looseTurnsAll t.inLoop t.site.unit t.children

mutual

/-- The elements of a node, in document order. -/
def elements : Node → List Element
  | .element el children => el :: elementsAll children
  | .loop _ _ body _ => elementsAll body
  | _ => []

/-- The elements of a forest, in document order. -/
def elementsAll : List Node → List Element
  | [] => []
  | node :: rest => elements node ++ elementsAll rest

end

/-- The elements of two forests in a row. -/
theorem elementsAll_append (nodes more : List Node) :
    elementsAll (nodes ++ more) = elementsAll nodes ++ elementsAll more := by
  induction nodes with
  | nil => rfl
  | cons node rest ih => rw [List.cons_append, elementsAll, elementsAll, ih, List.append_assoc]

/-- There is no element among statements. -/
theorem elementsAll_statements (stmts : List Stmt) : elementsAll (stmts.map .code) = [] := by
  induction stmts with
  | nil => rfl
  | cons stmt rest ih => exact ih

/-- What holds everywhere in a forest holds of its elements, each with what is in it. -/
theorem of_mem_elementsAll {p : Node → Prop} {nodes : List Node} (everywhere : Template.Everywhere p nodes)
    {el : Element} (h : el ∈ elementsAll nodes) : ∃ children, p (.element el children) := by
  induction nodes using Template.forestInduction with
  | nil => cases h
  | element el' children rest inside after =>
    obtain ⟨hel, hchildren, hrest⟩ := Template.everywhere_element.mp everywhere
    rw [elementsAll, elements, List.cons_append, List.mem_cons, List.mem_append] at h
    rcases h with rfl | h | h
    · exact ⟨children, hel⟩
    · exact inside hchildren h
    · exact after hrest h
  | loop item source body location rest inside after =>
    obtain ⟨-, hbody, hrest⟩ := Template.everywhere_loop.mp everywhere
    rw [elementsAll, elements, List.mem_append] at h
    exact h.elim (inside hbody) (after hrest)
  | text value location rest after => exact after (Template.throughout_text.mp everywhere).2 h
  | expression expr location rest after => exact after (Template.throughout_expression.mp everywhere).2 h
  | code stmt rest after => exact after (Template.throughout_code.mp everywhere).2 h

/-- Every element of a forest has its turn. -/
theorem map_el_turnsAll (inLoop : Bool) (u : CompileUnit) (nodes : List Node) :
    (turnsAll inLoop u nodes).map Turn.el = elementsAll nodes := by
  induction nodes using Template.forestInduction generalizing inLoop u with
  | nil => rfl
  | element el children rest inside after =>
    rw [turnsAll, turns, elementsAll, elements, List.map_append, List.map_cons, inside, after]
  | loop item source body location rest inside after =>
    rw [turnsAll, turns, elementsAll, elements, List.map_append, inside, after]
  | _ =>
    rename_i after
    exact after inLoop u

/-- An element is woven in its turn: its rules first, then its children, then its end. -/
theorem weaveNode_element (inLoop : Bool) (u : CompileUnit) (el : Element) (children : List Node) :
    let t : Turn := ⟨el, children, u, inLoop⟩
    weaveNode inLoop u (.element el children) =
      (.element t.woven ((weaveForest inLoop t.site.unit children).1 ++ t.finished.appended.map .code),
        t.finished.unit) :=
  rfl

section Weave

variable (inLoop : Bool) (u : CompileUnit) (rest : List Node)

/-- A forest that starts with an element is woven in the turn of that element. -/
theorem weaveForest_element (el : Element) (children : List Node) :
    let t : Turn := ⟨el, children, u, inLoop⟩
    (weaveForest inLoop u (.element el children :: rest)).1 =
      .element t.woven ((weaveForest inLoop t.site.unit children).1 ++ t.finished.appended.map .code) ::
        (weaveForest inLoop t.finished.unit rest).1 :=
  rfl

/-- A forest that starts with a loop is woven by weaving the body first. -/
theorem weaveForest_loop (item : String) (source : Expr) (body : List Node) (location : Template.Location) :
    (weaveForest inLoop u (.loop item source body location :: rest)).1 =
      .loop item source (weaveForest true u body).1 location ::
        (weaveForest inLoop (weaveForest true u body).2 rest).1 :=
  rfl

/-- A node that is neither element nor loop stays as it is. -/
theorem weaveForest_leaf {node : Node} (leaf : IsLeaf node) :
    (weaveForest inLoop u (node :: rest)).1 = node :: (weaveForest inLoop u rest).1 := by
  cases node with
  | element => exact leaf.elim
  | loop => exact leaf.elim
  | _ => rfl

end Weave

namespace Turn

variable (t : Turn)

/-- An element opens a widget of its own if the unit says so. -/
theorem bound_eq : t.bound = t.unit.opens t.el := Site.isRoot_bind rfl

/-- The same elements open a widget at every time of a turn. -/
theorem opens_site : t.site.unit.opens = t.unit.opens := funext (Site.opens_applyRules t.el t.unit t.inLoop)

/-- Finishing an element does not change which elements open widgets. -/
theorem opens_finished : t.finished.unit.opens = t.unit.opens :=
  opens_weaveForest t.inLoop t.unit [.element t.el t.children]

end Turn

/-- The elements of a woven forest are those that the turns end with. -/
theorem elementsAll_weaveForest (inLoop : Bool) (u : CompileUnit) (nodes : List Node) :
    elementsAll (weaveForest inLoop u nodes).1 = (turnsAll inLoop u nodes).map Turn.woven := by
  induction nodes using Template.forestInduction generalizing inLoop u with
  | nil => rfl
  | element el children rest inside after =>
    rw [weaveForest, turnsAll, turns, elementsAll, weaveNode_element, elements, elementsAll_append,
      elementsAll_statements, List.append_nil, inside, after]
    rw [List.map_append, List.map_cons]
  | loop item source body location rest inside after =>
    rw [weaveForest, turnsAll, turns, weaveNode, elementsAll, elements, inside, after, List.map_append]
  | _ =>
    rename_i after
    exact after inLoop u

/-! ## What holds at every turn -/

/-- What weaving a node keeps, and the rules for each element, holds at every turn if it holds at the start. -/
theorem of_mem_turnsAll {p : CompileUnit → Prop} {inLoop : Bool} {u : CompileUnit} {nodes : List Node}
    (node : ∀ inLoop u node, p u → p (weaveNode inLoop u node).2)
    (rules : ∀ t ∈ turnsAll inLoop u nodes, p t.unit → p t.site.unit) (start : p u) {t : Turn}
    (h : t ∈ turnsAll inLoop u nodes) : p t.unit := by
  induction nodes using Template.forestInduction generalizing inLoop u with
  | nil => cases h
  | element el children rest inside after =>
    rw [turnsAll, turns, List.cons_append, List.forall_mem_cons, List.forall_mem_append] at rules
    obtain ⟨hel, hchildren, hrest⟩ := rules
    rw [turnsAll, turns, List.cons_append, List.mem_cons, List.mem_append] at h
    rcases h with rfl | h | h
    · exact start
    · exact inside hchildren (hel start) h
    · exact after hrest (node _ _ _ start) h
  | loop item source body location rest inside after =>
    rw [turnsAll, turns, List.forall_mem_append] at rules
    rcases List.mem_append.mp h with h | h
    · exact inside rules.1 start h
    · exact after rules.2 (node _ _ _ start) h
  | _ =>
    rename_i after
    exact after rules start h

/-- The settings and the files are the same at every turn. -/
theorem context_of_mem_turnsAll {inLoop : Bool} {u : CompileUnit} {nodes : List Node} {t : Turn}
    (h : t ∈ turnsAll inLoop u nodes) : t.unit.settings = u.settings ∧ t.unit.files = u.files := by
  refine of_mem_turnsAll (p := fun v => v.settings = u.settings ∧ v.files = u.files) ?_ ?_ ⟨rfl, rfl⟩ h
  · intro inLoop v node ⟨hsettings, hfiles⟩
    obtain ⟨hsettings', hfiles'⟩ := (weaveForest_woven inLoop v [node]).context
    exact ⟨hsettings'.trans hsettings, hfiles'.trans hfiles⟩
  · intro t _ ⟨hsettings, hfiles⟩
    exact ⟨t.site_edits.settings.trans hsettings, t.site_edits.files.trans hfiles⟩

end WidgetTemplates.Compile
