import Mathlib.Tactic.Abel
import WidgetTemplates.Proofs.Compile.Untouched

/-!
# Which statements are printed

Weaving puts statements before an element, behind its children and after it, and does not ask how the element will be
printed. The writer passes over what stands in an element without content. So a body that is to be rendered in such an
element never is, although the element gets its id for it, and neither is any statement at an element further inside.

`NestedTurn.lost` lists what of the statements that weaving puts at an element is passed over, and `NestedTurn.shown`
what is left. The statements in print are those that are shown, each once (`statementsIn_weaveForest`), so all of them
are printed exactly if nothing is lost (`statements_printed_iff`). The proof goes down the forest with the turns above:
once one of their elements is without content, all that follows inside is lost and nothing inside is printed.
-/

namespace WidgetTemplates

open Script (Expr Stmt)

/-- Whether a statement renders a body in its slot. -/
def Script.Stmt.isSlotCall : Stmt → Bool
  | .expr (.call (.ident name) _) => name == "__widgetBody"
  | _ => false

namespace Compile

open Template (Element Everywhere Node isVoid occurrencesAll)

/-! ## The statements of one turn -/

namespace Turn

variable (t : Turn)

/-- The statements at a finished element: those before it, those behind its children and those after it. -/
def inserted : List Stmt := t.woven.before ++ t.finished.appended ++ t.woven.after

/-- What weaving may insert at an element: the variable of an id, the two calls around an element that hands over
something, and in between the call that renders a body, if there is a slot to fill. -/
def Inserts (slotFilled : Bool) : Prop :=
  ∃ (number : Option Nat) (slot : Option (Expr × Expr)), slot.isSome = slotFilled ∧
    t.woven.before = (number.map idVariable).toList ++ (t.site.handed?.map Site.depositStmt).toList ∧
    t.finished.appended = (slot.map fun p => Site.slotCall p.1 p.2).toList ∧
    t.woven.after = (t.site.handed?.map fun _ => Site.clearStmt).toList

/-- **Weaving inserts nothing else at a bare element**, and the slot is filled exactly if the element has `w-body` and
lies in a widget. -/
theorem inserts (bare : t.el.before ++ t.el.after = []) : t.Inserts (t.el.has "w-body" && t.entered.inWidget) := by
  obtain ⟨number, hnumber⟩ := Site.before_applyRules t.el t.unit t.inLoop
  obtain ⟨slot, happended, hslot⟩ := t.appended_finished
  obtain ⟨-, hbefore, hafter⟩ := t.statements_woven bare
  have hvariable : t.site.el.before = (number.map idVariable).toList := by
    rw [(List.append_eq_nil_iff.mp bare).1] at hnumber
    exact hnumber
  exact ⟨number, slot, hslot, hvariable ▸ hbefore, happended, hafter⟩

/-- The statements around an element and behind its children are those that are inserted at it. -/
theorem around_inserted {inner inner' : List Stmt} (h : inner.Perm inner') :
    (t.woven.before ++ t.woven.after ++ (inner ++ t.finished.appended)).Perm (t.inserted ++ inner') := by
  have hinner : (inner : Multiset Stmt) = inner' := Multiset.coe_eq_coe.mpr h
  rw [inserted, ← Multiset.coe_eq_coe]
  simp only [← Multiset.coe_add, hinner]
  abel

variable {t}

/-- Of the statements at an element, only the one behind its children renders a body. -/
theorem Inserts.countP_isSlotCall {slotFilled : Bool} (h : t.Inserts slotFilled) :
    t.woven.before.countP Stmt.isSlotCall = 0 ∧
      t.finished.appended.countP Stmt.isSlotCall = slotFilled.toNat ∧
      t.woven.after.countP Stmt.isSlotCall = 0 := by
  obtain ⟨number, slot, rfl, hbefore, happended, hafter⟩ := h
  rw [hbefore, happended, hafter]
  refine ⟨?_, ?_, ?_⟩
  · cases number <;> cases t.site.handed? <;> rfl
  · cases slot <;> rfl
  · cases t.site.handed? <;> rfl

/-- Something is rendered after the children exactly if a slot is filled. -/
theorem Inserts.appended_eq_nil {slotFilled : Bool} (h : t.Inserts slotFilled) :
    t.finished.appended = [] ↔ slotFilled = false := by
  obtain ⟨number, slot, rfl, -, happended, -⟩ := h
  rw [happended]
  cases slot <;> simp

end Turn

/-! ## What is shown and what is lost -/

namespace NestedTurn

variable (n : NestedTurn)

/-- Whether the element asks for a body: it has `w-body` and lies in a widget. -/
def fillsSlot : Bool := n.turn.el.has "w-body" && n.root?.isSome

/-- Whether the element stands in one without content. -/
def isBuried : Bool := n.above.any (isVoid ·.el.tag)

/-- Whether the children of the element are printed: neither the element nor one around it is without content. -/
def showsContent : Bool := !(n.turn :: n.above).any (isVoid ·.el.tag)

/-- The statements at the element that are printed. -/
def shown : List Stmt :=
  if n.isBuried then []
  else n.turn.woven.before ++ (if isVoid n.turn.el.tag then [] else n.turn.finished.appended) ++ n.turn.woven.after

/-- The statements at the element that are not printed: all of them if it stands in an element without content, and
those behind its children if it has no content itself. -/
def lost : List Stmt :=
  if n.isBuried then n.turn.inserted else if isVoid n.turn.el.tag then n.turn.finished.appended else []

variable {n}

/-- What is inserted at an element is either shown or lost. -/
theorem shown_append_lost : (n.shown ++ n.lost).Perm n.turn.inserted := by
  rw [shown, lost, Turn.inserted]
  split
  · exact List.Perm.refl _
  · split
    · rw [List.append_nil, List.append_assoc, List.append_assoc]
      exact List.perm_append_comm.append_left _
    · rw [List.append_nil]

/-- A body is rendered in print if the element asks for it and its children are printed. -/
theorem countP_shown (h : n.turn.Inserts n.fillsSlot) :
    n.shown.countP Stmt.isSlotCall = (n.fillsSlot && n.showsContent).toNat := by
  obtain ⟨hbefore, happended, hafter⟩ := h.countP_isSlotCall
  rw [shown, showsContent, List.any_cons, isBuried]
  rcases n.above.any (isVoid ·.el.tag) with _ | _ <;> rcases isVoid n.turn.el.tag with _ | _ <;>
    simp [List.countP_append, hbefore, happended, hafter]

/-- There is one slot call among the inserted statements if the slot is filled, and else none. -/
theorem countP_inserted (h : n.turn.Inserts n.fillsSlot) :
    n.turn.inserted.countP Stmt.isSlotCall = n.fillsSlot.toNat := by
  obtain ⟨hbefore, happended, hafter⟩ := h.countP_isSlotCall
  rw [Turn.inserted, List.countP_append, List.countP_append, hbefore, happended, hafter, Nat.zero_add, Nat.add_zero]

/-- An element that stands in no element without content is printed with what is shown of it, and with what is shown of
its children unless it has no content itself. -/
theorem statementsIn_woven (reached : n.isBuried = false) {nodes : List Node} {inner : List Stmt}
    (content : if isVoid n.turn.el.tag then inner = [] else (statementsIn (printedAll nodes)).Perm inner) :
    (statementsIn (printed (.element n.turn.woven (nodes ++ n.turn.finished.appended.map .code)))).Perm
      (n.shown ++ inner) := by
  have htag : n.turn.woven.tag = n.turn.el.tag := n.turn.keepsElement_woven.kind.1
  rw [printed, statementsIn_append, statementsIn_append, statementsIn_open, statementsIn_close, htag, shown, reached,
    if_neg Bool.false_ne_true]
  rcases hvoid : isVoid n.turn.el.tag with _ | _ <;> rw [hvoid] at content
  · rw [if_neg Bool.false_ne_true, if_neg Bool.false_ne_true, printedAll_append, statementsIn_append,
      printedAll_statements, statementsIn_statements, ← Multiset.coe_eq_coe]
    have hinner : (statementsIn (printedAll nodes) : Multiset Stmt) = inner := Multiset.coe_eq_coe.mpr content
    simp only [← Multiset.coe_add, hinner]
    abel
  · obtain rfl : inner = [] := content
    rw [if_pos rfl, if_pos rfl, List.append_nil]
    exact List.Perm.refl _

end NestedTurn

/-! ## Along a forest -/

section Forest

variable {above : List Turn} {inLoop : Bool} {u : CompileUnit} {nodes : List Node}

/-- Whatever stands around a forest stands around each of its elements. -/
theorem isBuried_of_mem_nestedTurnsAll (buried : above.any (isVoid ·.el.tag) = true) {n : NestedTurn}
    (h : n ∈ nestedTurnsAll above inLoop u nodes) : n.isBuried = true := by
  induction nodes using Template.forestInduction generalizing above inLoop u with
  | nil => cases h
  | element el children rest inside after =>
    rcases List.mem_append.mp h with h | h
    · rcases List.mem_cons.mp h with rfl | h
      · exact buried
      · refine inside ?_ h
        rw [List.any_cons, buried, Bool.or_true]
    · exact after buried h
  | loop item source body location rest inside after =>
    rcases List.mem_append.mp h with h | h
    · exact inside buried h
    · exact after buried h
  | _ =>
    rename_i after
    exact after buried h

/-- **The statements in print are those that are shown**, each once. -/
theorem statementsIn_weaveForest (reached : above.any (isVoid ·.el.tag) = false) (inLoop : Bool) (u : CompileUnit)
    (bare : Everywhere (fun node => node.statements = []) nodes) :
    (statementsIn (printedAll (weaveForest inLoop u nodes).1)).Perm
      ((nestedTurnsAll above inLoop u nodes).flatMap NestedTurn.shown) := by
  induction nodes using Template.forestInduction generalizing above inLoop u with
  | nil => exact List.Perm.refl _
  | element el children rest inside after =>
    obtain ⟨-, hchildren, hrest⟩ := Template.everywhere_element.mp bare
    let n : NestedTurn := ⟨⟨el, children, u, inLoop⟩, above⟩
    rw [weaveForest_element, printedAll, statementsIn_append, nestedTurnsAll, nestedTurns, List.flatMap_append,
      List.flatMap_cons]
    refine (NestedTurn.statementsIn_woven (n := n) reached ?_).append (after reached inLoop n.turn.finished.unit hrest)
    change if isVoid el.tag then _ else _
    rcases hvoid : isVoid el.tag with _ | _
    · exact inside (by rw [List.any_cons, hvoid, reached]; rfl) inLoop n.turn.site.unit hchildren
    -- nothing inside a void element is printed
    · refine List.flatMap_eq_nil_iff.mpr fun m hm => ?_
      have hburied : m.isBuried = true := isBuried_of_mem_nestedTurnsAll (by rw [List.any_cons, hvoid]; rfl) hm
      rw [NestedTurn.shown, hburied]
      rfl
  | loop item source body location rest inside after =>
    obtain ⟨-, hbody, hrest⟩ := Template.everywhere_loop.mp bare
    have hnode : statementsIn (printed (.loop item source (weaveForest true u body).1 location)) =
        statementsIn (printedAll (weaveForest true u body).1) := by
      rw [printed, statementsIn_append, ← List.singleton_append, statementsIn_append]
      exact List.append_nil _
    rw [weaveForest_loop, printedAll, statementsIn_append, hnode, nestedTurnsAll, nestedTurns, List.flatMap_append]
    exact (inside reached true u hbody).append (after reached inLoop _ hrest)
  | text value location rest after => exact after reached inLoop u (Template.throughout_text.mp bare).2
  | expression expr location rest after => exact after reached inLoop u (Template.throughout_expression.mp bare).2
  | code stmt rest after => exact absurd (Template.throughout_code.mp bare).1 (List.cons_ne_nil _ _)

/-- The statements of nodes that are statements. -/
theorem statements_occurrencesAll_codes (around : List Node) (ss : List Stmt) :
    (occurrencesAll around (ss.map .code)).flatMap (·.node.statements) = ss := by
  induction ss with
  | nil => rfl
  | cons s rest ih => exact congrArg (s :: ·) ih

/-- **The statements of a woven forest are those that have been inserted at its elements**, each once. -/
theorem statements_weaveForest (around : List Node) (inLoop : Bool) (u : CompileUnit)
    (bare : Everywhere (fun node => node.statements = []) nodes) :
    ((occurrencesAll around (weaveForest inLoop u nodes).1).flatMap (·.node.statements)).Perm
      ((turnsAll inLoop u nodes).flatMap Turn.inserted) := by
  induction nodes using Template.forestInduction generalizing around inLoop u with
  | nil => exact List.Perm.refl _
  | element el children rest inside after =>
    obtain ⟨-, hchildren, hrest⟩ := Template.everywhere_element.mp bare
    let t : Turn := ⟨el, children, u, inLoop⟩
    rw [weaveForest_element, occurrencesAll, Node.occurrences, List.flatMap_append, List.flatMap_cons,
      Template.occurrencesAll_append, List.flatMap_append, statements_occurrencesAll_codes, turnsAll, turns,
      List.flatMap_append, List.flatMap_cons]
    refine List.Perm.append ?_ (after around inLoop t.finished.unit hrest)
    exact t.around_inserted (inside _ inLoop t.site.unit hchildren)
  | loop item source body location rest inside after =>
    obtain ⟨-, hbody, hrest⟩ := Template.everywhere_loop.mp bare
    rw [weaveForest_loop, occurrencesAll, Node.occurrences, List.flatMap_append, List.flatMap_cons, turnsAll, turns,
      List.flatMap_append]
    exact (inside _ true u hbody).append (after around inLoop _ hrest)
  | text value location rest after => exact after around inLoop u (Template.throughout_text.mp bare).2
  | expression expr location rest after => exact after around inLoop u (Template.throughout_expression.mp bare).2
  | code stmt rest after => exact absurd (Template.throughout_code.mp bare).1 (List.cons_ne_nil _ _)

/-- A template whose elements without content have no children. -/
def VoidIsEmpty : Node → Prop
  | .element el children => isVoid el.tag = true → children = []
  | _ => True

/-- In such a template no element stands in one without content. -/
theorem not_isBuried_of_mem_nestedTurnsAll (reached : above.any (isVoid ·.el.tag) = false)
    (empty : Everywhere VoidIsEmpty nodes) {n : NestedTurn} (h : n ∈ nestedTurnsAll above inLoop u nodes) :
    n.isBuried = false := by
  induction nodes using Template.forestInduction generalizing above inLoop u with
  | nil => cases h
  | element el children rest inside after =>
    obtain ⟨hel, hchildren, hrest⟩ := Template.everywhere_element.mp empty
    rcases List.mem_append.mp h with h | h
    · rcases List.mem_cons.mp h with rfl | h
      · exact reached
      · rcases hvoid : isVoid el.tag with _ | _
        · exact inside (by rw [List.any_cons, hvoid, reached]; rfl) hchildren h
        · rw [hel hvoid] at h
          cases h
    · exact after reached hrest h
  | loop item source body location rest inside after =>
    obtain ⟨-, hbody, hrest⟩ := Template.everywhere_loop.mp empty
    rcases List.mem_append.mp h with h | h
    · exact inside reached hbody h
    · exact after reached hrest h
  | text value location rest after => exact after reached (Template.throughout_text.mp empty).2 h
  | expression expr location rest after => exact after reached (Template.throughout_expression.mp empty).2 h
  | code stmt rest after => exact after reached (Template.throughout_code.mp empty).2 h

/-- At each turn of a bare forest at most a variable, two calls that hand over and a filled slot are inserted. -/
theorem inserts_of_mem_nestedTurnsAll (closed : u.widgets = [])
    (bare : Everywhere (fun node => node.statements = []) nodes) {n : NestedTurn}
    (h : n ∈ nestedTurnsAll [] inLoop u nodes) : n.turn.Inserts n.fillsSlot := by
  have hturn : n.turn ∈ turnsAll inLoop u nodes := map_turn_nestedTurnsAll [] inLoop u nodes ▸ List.mem_map_of_mem h
  have hstart : Innermost [] (([] : List Turn).find? Turn.bound) u.widgets := by
    rw [closed]
    exact SameStack.refl []
  rw [NestedTurn.fillsSlot, ← n.inWidget_entered (innermost_of_mem_nestedTurnsAll hstart h)]
  exact n.turn.inserts (bare_of_mem_turnsAll bare hturn)

end Forest

/-- Each statement in print has a line of its own, in the same order. -/
theorem lines_statementsIn (depth : Nat) (items : List Item) :
    ((statementsIn items).map Stmt.print).Sublist ((merged (itemEntries depth items)).map Line.text) := by
  induction h : statementsIn items generalizing depth items with
  | nil => exact List.nil_sublist _
  | cons s more ih =>
    obtain ⟨front, item, back, rfl, -, hitem, hback⟩ := List.filterMap_eq_cons_iff.mp h
    have hstmt : item = .stmt s := by
      cases item with
      | stmt s' => exact congrArg Item.stmt (Option.some.inj hitem)
      | _ => cases hitem
    subst hstmt
    -- the line of the statement ends the markup before it
    rw [itemEntries_append, itemEntries, Item.entry, Entry.ofStmt, merged_append_line, List.map_append, List.map_cons,
      List.map_cons]
    exact ((ih _ back hback).cons_cons s.print).trans (List.sublist_append_right _ _)

/-- Lists that each contribute at most one element are counted together. -/
theorem countP_flatMap_toNat {α β : Type} {p : β → Bool} {q : α → Bool} {f : α → List β} {xs : List α}
    (each : ∀ x ∈ xs, (f x).countP p = (q x).toNat) : (xs.flatMap f).countP p = xs.countP q := by
  induction xs with
  | nil => rfl
  | cons x rest ih =>
    obtain ⟨hx, hrest⟩ := List.forall_mem_cons.mp each
    rw [List.flatMap_cons, List.countP_append, List.countP_cons, ih hrest, hx, Nat.add_comm]
    cases q x <;> rfl

/-- A part of a list is all of it exactly if nothing is left besides. -/
theorem perm_iff_of_append_perm {α : Type} {part rest all : List α} (h : (part ++ rest).Perm all) :
    part.Perm all ↔ rest = [] := by
  constructor
  · intro hall
    have hlength := h.length_eq
    rw [List.length_append, hall.length_eq, Nat.add_eq_left] at hlength
    exact List.length_eq_zero_iff.mp hlength
  · rintro rfl
    rwa [List.append_nil] at h

/-- **A statement is printed unless it stands in an element without content.** Take a template without statements of its
own. What weaving puts into it are the variables of ids, the pairs of calls that hand over, and for each element in a
widget that has `w-body` the call that renders a body. The statements in print, each of which has a line of its own in
the render function, are these without the lost ones, each once. So all are printed exactly if nothing is lost, and of
the bodies only those are rendered whose element shows its content. If elements without content have no children, all
statements are printed exactly if no such element in a widget has `w-body`. -/
theorem statements_printed_iff (settings : Template.Settings) (files : Path.Files) (nodes : List Node)
    (bare : Everywhere (fun node => node.statements = []) nodes) :
    let u : CompileUnit := { settings, files }
    let woven := weave u nodes
    let turns := nestedTurnsAll [] false u nodes
    let inserted := (occurrencesAll [] woven.1).flatMap (·.node.statements)
    let inPrint := statementsIn (printedAll woven.1)
    ((generate woven.2 woven.1).1.body = merged (itemEntries 1 (printedAll woven.1)) ∧
        (inPrint.map Stmt.print).Sublist ((generate woven.2 woven.1).1.body.map Line.text)) ∧
      turns.map (·.turn.el) = elementsAll nodes ∧
      (inserted.Perm (turns.flatMap (·.turn.inserted)) ∧ ∀ n ∈ turns, n.turn.Inserts n.fillsSlot) ∧
      (inPrint ++ turns.flatMap NestedTurn.lost).Perm inserted ∧
      (inPrint.Perm inserted ↔ ∀ n ∈ turns, n.lost = []) ∧
      (inserted.countP Stmt.isSlotCall = turns.countP NestedTurn.fillsSlot ∧
        inPrint.countP Stmt.isSlotCall = turns.countP fun n => n.fillsSlot && n.showsContent) ∧
      (Everywhere VoidIsEmpty nodes →
        (inPrint.Perm inserted ↔ ∀ n ∈ turns, isVoid n.turn.el.tag = true → n.fillsSlot = false)) := by
  intro u woven turns inserted inPrint
  have hforest : woven = weaveForest false u nodes := weave_eq rfl nodes
  have hturns : turns.map NestedTurn.turn = turnsAll false u nodes := map_turn_nestedTurnsAll [] false u nodes
  have hinserts : ∀ n ∈ turns, n.turn.Inserts n.fillsSlot := fun n hn => inserts_of_mem_nestedTurnsAll rfl bare hn
  have hinserted : inserted.Perm (turns.flatMap (·.turn.inserted)) := by
    have hperm := statements_weaveForest [] false u bare
    rw [← hforest, ← hturns, List.flatMap_map] at hperm
    exact hperm
  have hshown : inPrint.Perm (turns.flatMap NestedTurn.shown) := by
    have hperm := @statementsIn_weaveForest [] nodes rfl false u bare
    rwa [← hforest] at hperm
  have hdivided : (inPrint ++ turns.flatMap NestedTurn.lost).Perm inserted := by
    refine ((hshown.append_right _).trans (List.flatMap_append_perm turns _ _)).trans (.trans ?_ hinserted.symm)
    exact List.Perm.flatMap_left turns fun n _ => n.shown_append_lost
  have hnothing : inPrint.Perm inserted ↔ ∀ n ∈ turns, n.lost = [] := by
    rw [← List.flatMap_eq_nil_iff]
    exact perm_iff_of_append_perm hdivided
  have hbody : (generate woven.2 woven.1).1.body = merged (itemEntries 1 (printedAll woven.1)) := by
    rw [itemEntries_printedAll_one]
    exact body_merged woven.2 woven.1
  refine ⟨⟨hbody, ?_⟩, ?_, ⟨hinserted, hinserts⟩, hdivided, hnothing, ⟨?_, ?_⟩, ?_⟩
  · rw [hbody]
    exact lines_statementsIn 1 _
  · rw [← map_el_turnsAll false u, ← hturns, List.map_map]
    rfl
  · rw [hinserted.countP_eq]
    exact countP_flatMap_toNat fun n hn => NestedTurn.countP_inserted (hinserts n hn)
  · rw [hshown.countP_eq]
    exact countP_flatMap_toNat fun n hn => NestedTurn.countP_shown (hinserts n hn)
  · intro empty
    -- where void elements are empty nothing is buried, so all that an element can lose is its own call
    rw [hnothing]
    refine forall₂_congr fun n hn => ?_
    rw [NestedTurn.lost, not_isBuried_of_mem_nestedTurnsAll rfl empty hn, if_neg Bool.false_ne_true,
      ← (hinserts n hn).appended_eq_nil]
    rcases isVoid n.turn.el.tag with _ | _ <;> simp

/-- A root with an input, a custom element with a handler, and a slot in a loop: all statements are printed, the two
calls that hand over, the variable of the id and the call that renders the body. -/
theorem statements_printed_of_paragraph :
    let nodes : List Node :=
      [.element { tag := "div", attributes := [⟨"w-bind", some (.str "./w")⟩] }
        [.element { tag := "input", attributes := [⟨"w-id", some (.str "name")⟩] } [],
          .element { tag := "app-x", custom := true, attributes := [⟨"w-onclick", some (.str "go")⟩] } [],
          .loop "x" (.raw "data.xs") [.element { tag := "p", attributes := [⟨"w-body", some (.raw "x")⟩] } []] .start]]
    let woven := weave {} nodes
    let inserted := (occurrencesAll [] woven.1).flatMap (·.node.statements)
    Everywhere (fun node => node.statements = []) nodes ∧ Everywhere VoidIsEmpty nodes ∧ inserted.length = 4 ∧
      (statementsIn (printedAll woven.1)).Perm inserted ∧
      (statementsIn (printedAll woven.1)).countP Stmt.isSlotCall = 1 := by
  intro nodes woven inserted
  have bare : Everywhere (fun node => node.statements = []) nodes := by simp [nodes, Everywhere, Node.statements]
  have hdiv : isVoid "div" = false := by decide
  have empty : Everywhere VoidIsEmpty nodes := by simp [nodes, Everywhere, VoidIsEmpty, hdiv]
  obtain ⟨-, -, -, -, -, ⟨-, hrendered⟩, hall⟩ := statements_printed_iff {} {} nodes bare
  exact ⟨bare, empty, by decide +kernel, (hall empty).mpr (by decide +kernel), hrendered.trans (by decide +kernel)⟩

/-- A root with a slot that is an element without content: the call that renders the body is inserted and not
printed. -/
theorem slotCall_lost_of_input :
    let nodes : List Node :=
      [.element { tag := "div", attributes := [⟨"w-bind", some (.str "./w")⟩] }
        [.element { tag := "input", attributes := [⟨"w-body", none⟩] } []]]
    let woven := weave {} nodes
    let inserted := (occurrencesAll [] woven.1).flatMap (·.node.statements)
    Everywhere (fun node => node.statements = []) nodes ∧
      (nestedTurnsAll [] false {} nodes).countP NestedTurn.fillsSlot = 1 ∧ inserted.countP Stmt.isSlotCall = 1 ∧
      (statementsIn (printedAll woven.1)).countP Stmt.isSlotCall = 0 ∧
      ¬ (statementsIn (printedAll woven.1)).Perm inserted := by
  intro nodes woven inserted
  have hinserted : inserted.countP Stmt.isSlotCall = 1 := by decide +kernel
  have hprinted : (statementsIn (printedAll woven.1)).countP Stmt.isSlotCall = 0 := by decide +kernel
  refine ⟨by simp [nodes, Everywhere, Node.statements], by decide +kernel, hinserted, hprinted, ?_⟩
  intro hall
  exact absurd (hprinted.symm.trans ((hall.countP_eq _).trans hinserted)) Nat.zero_ne_one

end Compile

end WidgetTemplates
