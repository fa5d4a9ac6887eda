import Mathlib.Combinatorics.Enumerative.DyckWord
import WidgetTemplates.Proofs.Compile.Declared
import WidgetTemplates.Proofs.Compile.Merged
import WidgetTemplates.Proofs.Compile.Turns

/-!
# The pairs of calls that hand over

What an element hands over is deposited by a call before the element and cleared by a call after it. Read as brackets,
these calls are well nested in the render function, although nobody compares them with each other: the two calls of an
element are put next to it when its children are finished, behind the variables that are declared before it.

So in the woven forest the statements around each element are either no brackets at all or end in one that opens and
begin with one that closes (`Framed`), and whatever weaving puts anywhere else is none (`Woven.framed`). In print, a
forest of such elements is a Dyck word that follows the nesting of the elements (`brackets_printedAll`). The main result
(`handover_pairs_nest`) says this and finds each pair at the place of its element in print: it encloses the widget of
the element and all that is in it, and nothing else.
-/

namespace WidgetTemplates

open Script (Expr Stmt)

/-- The bracket that a statement is: the call that deposits what is handed over opens a pair, and the call that clears
it closes one. -/
def Script.Stmt.bracket? : Stmt → Option DyckStep
  | .expr (.call (.ident name) _) =>
    if name = "__widgetArgs" then some .U else if name = "_cleanupWidgetArgs" then some .D else none
  | _ => none

namespace Compile

open Template (Binding Element Everywhere Node)

/-! ## Brackets in print -/

/-- The bracket that a printed item is. -/
def Item.bracket? : Item → Option DyckStep
  | .stmt s => s.bracket?
  | _ => none

/-- The brackets in print, in order. -/
def brackets (items : List Item) : List DyckStep := items.filterMap Item.bracket?

@[simp] theorem brackets_append (items more : List Item) :
    brackets (items ++ more) = brackets items ++ brackets more :=
  List.filterMap_append

/-- Items that are no brackets have none. -/
theorem brackets_of_none {items : List Item} (h : ∀ item ∈ items, item.bracket? = none) : brackets items = [] :=
  List.filterMap_eq_nil_iff.mpr h

/-- Only statements are brackets. -/
theorem brackets_eq (items : List Item) : brackets items = (statementsIn items).filterMap Stmt.bracket? := by
  rw [brackets, statementsIn, List.filterMap_filterMap]
  congr 1
  funext item
  cases item <;> rfl

/-- Before the children of an element, only the statements before it can be brackets. -/
@[simp] theorem brackets_open (el : Element) : brackets (printedOpen el) = el.before.filterMap Stmt.bracket? := by
  rw [brackets_eq, statementsIn_open]

/-- After the children of an element, only the statements after it can be brackets. -/
@[simp] theorem brackets_close (el : Element) : brackets (printedClose el) = el.after.filterMap Stmt.bracket? := by
  rw [brackets_eq, statementsIn_close]

/-! ## Forests that print well-nested brackets -/

/-- Around an element stand a bracket that opens and one that closes, or none, and no other statement is one. -/
def Framed : Node → Prop
  | .element el _ =>
    el.before.filterMap Stmt.bracket? = [] ∧ el.after.filterMap Stmt.bracket? = [] ∨
      el.before.filterMap Stmt.bracket? = [.U] ∧ el.after.filterMap Stmt.bracket? = [.D]
  | .code s => s.bracket? = none
  | _ => True

/-- Whether an element stands between brackets. -/
def isPaired (el : Element) : Bool := el.after.any (·.bracket?.isSome)

mutual

/-- The pairs of a node in print: one around each element that stands between brackets. -/
def pairs : Node → DyckWord
  | .element el children =>
    let inside := if Template.isVoid el.tag then 0 else pairsAll children
    if isPaired el then inside.nest else inside
  | .loop _ _ body _ => pairsAll body
  | _ => 0

/-- The pairs of a forest in print. -/
def pairsAll : List Node → DyckWord
  | [] => 0
  | node :: rest => pairs node + pairsAll rest

end

/-- Without brackets behind it an element has no pair. -/
theorem isPaired_eq_false {el : Element} (h : el.after.filterMap Stmt.bracket? = []) : isPaired el = false := by
  simpa [isPaired] using h

/-- With a closing bracket behind it an element has a pair. -/
theorem isPaired_eq_true {el : Element} (h : el.after.filterMap Stmt.bracket? = [.D]) : isPaired el = true := by
  obtain ⟨s, hs, hbracket⟩ := List.mem_filterMap.mp (h ▸ List.mem_singleton_self DyckStep.D)
  exact List.any_eq_true.mpr ⟨s, hs, by rw [hbracket]; rfl⟩

/-- **Framed elements print well-nested brackets**, nested as the elements are. -/
theorem brackets_printedAll {nodes : List Node} (framed : Everywhere Framed nodes) :
    brackets (printedAll nodes) = (pairsAll nodes).toList := by
  induction nodes using Template.forestInduction with
  | nil => rfl
  | element el children rest inside after =>
    obtain ⟨hel, hchildren, hrest⟩ := Template.everywhere_element.mp framed
    have hinside : brackets (if Template.isVoid el.tag then [] else printedAll children) =
        (if Template.isVoid el.tag then 0 else pairsAll children : DyckWord).toList := by
      split
      · rfl
      · exact inside hchildren
    rw [printedAll, brackets_append, after hrest, printed, brackets_append, brackets_append, hinside, brackets_open,
      brackets_close]
    refine congrArg (· ++ (pairsAll rest).toList) ?_
    -- Either nothing is around the word of the children, or one pair that nests it.
    rcases hel with ⟨hbefore, hafter⟩ | ⟨hbefore, hafter⟩
    · rw [hbefore, hafter, pairs, isPaired_eq_false hafter, List.append_nil]
      rfl
    · rw [hbefore, hafter, pairs, isPaired_eq_true hafter]
      rfl
  | loop item source body location rest inside after =>
    obtain ⟨-, hbody, hrest⟩ := Template.everywhere_loop.mp framed
    rw [printedAll, brackets_append, after hrest, printed, brackets_append, ← List.singleton_append, brackets_append,
      inside hbody, pairsAll, pairs]
    exact congrArg (· ++ (pairsAll rest).toList) (List.append_nil _)
  | text value location rest after => exact after (Template.throughout_text.mp framed).2
  | expression expr location rest after => exact after (Template.throughout_expression.mp framed).2
  | code stmt rest after =>
    obtain ⟨hstmt, hrest⟩ := Template.throughout_code.mp framed
    have hown : brackets [.stmt stmt] = [] := brackets_of_none (List.forall_mem_singleton.mpr hstmt)
    rw [printedAll, brackets_append, after hrest, printed, hown]
    rfl

/-! ## What weaving puts around an element -/

namespace Site

variable {orig : Element} {late : Bool} {s s' : Site}

/-- No statement that has been put before the element or after its children is a bracket. -/
structure Unbracketed (s : Site) : Prop where
  before : ∀ stmt ∈ s.el.before, stmt.bracket? = none
  appended : ∀ stmt ∈ s.appended, stmt.bracket? = none

/-- Whether brackets have been put at an element depends on these statements only. -/
theorem Unbracketed.of_eq (h : s.Unbracketed) (before : s'.el.before = s.el.before)
    (appended : s'.appended = s.appended) : s'.Unbracketed :=
  ⟨by rw [before]; exact h.before, by rw [appended]; exact h.appended⟩

/-- Declaring the variable of an id puts no bracket at the element. -/
theorem Unbracketed.ensureVariable (h : s.Unbracketed) : s.ensureVariable.Unbracketed := by
  rcases s.ensureVariable_cases with hs | ⟨a, stmt, -, -, hstmt, hs⟩
  · rwa [hs]
  · rw [hs]
    obtain ⟨name, -, rfl⟩ := Option.map_eq_some_iff.mp hstmt
    exact ⟨List.forall_mem_append.mpr ⟨h.before, List.forall_mem_singleton.mpr rfl⟩, h.appended⟩

/-- Settling an id puts no bracket at the element. -/
theorem Unbracketed.assign (h : s.Unbracketed) (repeated : Bool) : (s.assign repeated).Unbracketed := by
  refine assign_induction h (fun _ _ _ => h.of_eq rfl rfl) (fun _ _ => h.of_eq rfl rfl) ?_ ?_
  · exact fun _ ht => ht.ensureVariable
  · exact fun _ ht => ht.of_eq rfl rfl

/-- No edit puts a bracket anywhere: what it puts before the element are variables. -/
theorem Edit.unbracketed (edit : Edit orig late s s') (h : s.Unbracketed) : s'.Unbracketed := by
  cases edit with
  | enter =>
    have hbound : s.bindId.Unbracketed := by
      rcases s.bindId_cases with hs | ⟨-, hs⟩ | ⟨-, e, hs⟩ <;> rw [hs] <;> exact h.of_eq rfl rfl
    exact hbound.of_eq rfl rfl
  | assign repeated => exact h.assign repeated
  | ensureVariable => exact h.ensureVariable
  | listen name type handler =>
    unfold Site.listen
    split <;> exact h.of_eq rfl rfl
  | slot id body =>
    exact ⟨h.before, List.forall_mem_append.mpr ⟨h.appended, List.forall_mem_singleton.mpr rfl⟩⟩
  | _ => exact h.of_eq rfl rfl

/-- The edits at an element put no bracket there. -/
theorem Edits.unbracketed (edits : Edits orig late s s') (h : s.Unbracketed) : s'.Unbracketed :=
  edits.keeps (p := Unbracketed) (fun _ _ step ih => step.unbracketed ih) h

/-- What the element hands over, if it is anything. -/
def handed? (s : Site) : Option Handover := s.handover.filter (!·.isEmpty)

/-- The calls that hand over go right before and right after the element. -/
theorem statements_surround (s : Site) :
    s.surround.el.before = s.el.before ++ (s.handed?.map depositStmt).toList ∧
      s.surround.el.after = (s.handed?.map fun _ => clearStmt).toList ++ s.el.after := by
  rcases s.surround_cases with ⟨hs, hempty⟩ | ⟨h, hgiven, hfull, hs⟩
  · have hnone : s.handed? = none := by
      rcases hh : s.handover with _ | h
      · rw [handed?, hh]
        rfl
      · rw [handed?, hh, Option.filter_some, hempty h hh]
        rfl
    rw [hs, hnone]
    simp
  · have hsome : s.handed? = some h := by rw [handed?, hgiven, Option.filter_some, hfull]; rfl
    rw [hs, hsome]
    exact ⟨rfl, rfl⟩

/-- Closing the widget of an element puts nothing around it. -/
theorem statements_leave (s : Site) :
    s.leave.el.before = s.el.before ∧ s.leave.el.after = s.el.after ∧ s.leave.appended = s.appended := by
  rcases s.leave_cases with ⟨-, m, hs⟩ | ⟨w, rest, -, hs⟩ <;> rw [hs]
  · exact ⟨rfl, rfl, rfl⟩
  · obtain ⟨hbefore, hafter, -⟩ := finishRoot_frame s.el w
    exact ⟨hbefore, hafter, rfl⟩

/-- An element is closed in the unit after its children, which has no part in it. -/
theorem statements_close (s : Site) (u : CompileUnit) :
    let closed := ({ s with unit := u } : Site).close
    closed.el.before = s.el.before ++ (s.handed?.map depositStmt).toList ∧
      closed.el.after = (s.handed?.map fun _ => clearStmt).toList ++ s.el.after ∧ closed.appended = s.appended := by
  let s' : Site := { s with unit := u }
  obtain ⟨hbefore, hafter⟩ := s'.statements_surround
  have happended : s'.surround.appended = s.appended := s'.surround_frame.2.2
  rw [close]
  split
  · obtain ⟨hbefore', hafter', happended'⟩ := s'.surround.statements_leave
    exact ⟨hbefore'.trans hbefore, hafter'.trans hafter, happended'.trans happended⟩
  · exact ⟨hbefore, hafter, happended⟩

/-- At the start there is no statement, so no bracket. -/
theorem unbracketed_start (el : Element) (u : CompileUnit) (inLoop : Bool) (bare : el.before = []) :
    (start el u inLoop).Unbracketed :=
  ⟨fun _ h => absurd (bare ▸ h) List.not_mem_nil, nofun⟩

/-- What is handed over puts one bracket before the element and one behind it. -/
theorem filterMap_bracket?_pair (handed? : Option Handover) :
    (handed?.map depositStmt).toList.filterMap Stmt.bracket? = (handed?.map fun _ => DyckStep.U).toList ∧
      (handed?.map fun _ => clearStmt).toList.filterMap Stmt.bracket? = (handed?.map fun _ => DyckStep.D).toList := by
  cases handed? <;> exact ⟨rfl, rfl⟩

/-- The statements around a finished element that had none: variables and a deposit before it, and the call that
clears after it. -/
theorem finished_bare {el : Element} {u u₁ : CompileUnit} {inLoop : Bool} (bare : el.before ++ el.after = []) :
    (start el u inLoop).applyRules.Unbracketed ∧
      (finished el u inLoop u₁).el.before = (start el u inLoop).applyRules.el.before ++
        ((start el u inLoop).applyRules.handed?.map depositStmt).toList ∧
      (finished el u inLoop u₁).el.after = ((start el u inLoop).applyRules.handed?.map fun _ => clearStmt).toList ∧
      (finished el u inLoop u₁).appended = (start el u inLoop).applyRules.appended := by
  have edits := start_edits el u inLoop
  obtain ⟨hnoBefore, hnoAfter⟩ := List.append_eq_nil_iff.mp bare
  obtain ⟨hbefore, hafter, happended⟩ := statements_close (start el u inLoop).applyRules u₁
  rw [edits.after, start, hnoAfter, List.append_nil] at hafter
  rw [finished]
  exact ⟨edits.unbracketed (unbracketed_start el u inLoop hnoBefore), hbefore, hafter, happended⟩

/-- A finished element is framed. -/
theorem framed_finished {el : Element} {u u₁ : CompileUnit} {inLoop : Bool} (bare : el.before ++ el.after = [])
    (children : List Node) :
    Framed (.element (finished el u inLoop u₁).el children) ∧
      ∀ stmt ∈ (finished el u inLoop u₁).appended, stmt.bracket? = none := by
  obtain ⟨hquiet, hbefore, hafter, happended⟩ := @finished_bare el u u₁ inLoop bare
  obtain ⟨hdeposit, hclear⟩ := filterMap_bracket?_pair (start el u inLoop).applyRules.handed?
  have hnone := List.filterMap_eq_nil_iff.mpr hquiet.before
  refine ⟨?_, by rw [happended]; exact hquiet.appended⟩
  rw [Framed, hbefore, hafter, List.filterMap_append, hnone, hdeposit, hclear]
  cases (start el u inLoop).applyRules.handed? with
  | none => exact .inl ⟨rfl, rfl⟩
  | some h => exact .inr ⟨rfl, rfl⟩

end Site

/-- In a bare forest weaving comes to bare elements only. -/
theorem bare_of_mem_turnsAll {inLoop : Bool} {u : CompileUnit} {nodes : List Node} {t : Turn}
    (bare : Everywhere (fun node => node.statements = []) nodes) (h : t ∈ turnsAll inLoop u nodes) :
    t.el.before ++ t.el.after = [] := by
  have hmem : t.el ∈ elementsAll nodes := map_el_turnsAll inLoop u nodes ▸ List.mem_map_of_mem h
  obtain ⟨children, hown⟩ := of_mem_elementsAll bare hmem
  exact hown

/-- The statements around what weaving makes of a bare element. -/
theorem Turn.statements_woven (t : Turn) (bare : t.el.before ++ t.el.after = []) :
    t.site.Unbracketed ∧ t.woven.before = t.site.el.before ++ (t.site.handed?.map Site.depositStmt).toList ∧
      t.woven.after = (t.site.handed?.map fun _ => Site.clearStmt).toList := by
  obtain ⟨hsilent, hbefore, hafter, -⟩ := @Site.finished_bare t.el t.unit t.inside t.inLoop bare
  rw [woven, finished, site]
  exact ⟨hsilent, hbefore, hafter⟩

/-- **Weaving a bare forest frames its elements.** -/
theorem Woven.framed {inLoop : Bool} {u u' : CompileUnit} {nodes nodes' : List Node}
    (h : Woven inLoop u nodes nodes' u')
    (bare : Everywhere (fun node => node.statements = []) nodes) : Everywhere Framed nodes' := by
  induction h with
  | nil => exact nofun
  | element inside after ihInside ihAfter =>
    obtain ⟨hel, hchildren, hrest⟩ := Template.everywhere_element.mp bare
    obtain ⟨hframed, happended⟩ := Site.framed_finished hel _
    refine Template.everywhere_element.mpr ⟨hframed, ?_, ihAfter hrest⟩
    exact Template.throughout_append.mpr ⟨ihInside hchildren, Template.throughout_statements.mpr happended⟩
  | loop inside after ihInside ihAfter =>
    obtain ⟨-, hbody, hrest⟩ := Template.everywhere_loop.mp bare
    exact Template.everywhere_loop.mpr ⟨trivial, ihInside hbody, ihAfter hrest⟩
  | @leaf inLoop u u' node rest rest' leaf after ih =>
    obtain ⟨hown, hrest⟩ := (throughout_leaf leaf).mp bare
    have hnode : Framed node := by
      cases node with
      | element => exact leaf.elim
      | code => cases hown
      | _ => trivial
    exact (throughout_leaf leaf).mpr ⟨hnode, ih hrest⟩

/-! ## Places in print -/

/-- The place of an element in print: the element with its children, and what is printed before and after it. -/
structure Place where
  el : Element
  children : List Node
  front : List Item
  back : List Item

mutual

/-- The places of the elements that are printed for a node between `front` and `back`, in document order. -/
def places (front back : List Item) : Node → List Place
  | .element el children =>
    ⟨el, children, front, back⟩ ::
      if Template.isVoid el.tag then []
      else placesAll (front ++ printedOpen el) (printedClose el ++ back) children
  | .loop item source body _ => placesAll (front ++ [.openLoop item source]) (.close :: back) body
  | _ => []

/-- The places of the elements that are printed for a forest between `front` and `back`, in document order. -/
def placesAll (front back : List Item) : List Node → List Place
  | [] => []
  | node :: rest => places front (printedAll rest ++ back) node ++ placesAll (front ++ printed node) back rest

end

namespace Place

variable (p : Place)

/-- What the element is printed as, with the statements around it. -/
def whole : List Item := printed (.element p.el p.children)

/-- What the element itself is printed as: its widget, its tags and what is in it. -/
def output : List Item := printed (.element { p.el with before := [], after := [] } p.children)

/-- The places of the elements that are printed inside the element. -/
def inner : List Place :=
  if Template.isVoid p.el.tag then []
  else placesAll (p.front ++ printedOpen p.el) (printedClose p.el ++ p.back) p.children

/-- The print of an element is its output with the statements around it. -/
theorem whole_eq : p.whole = p.el.before.map .stmt ++ (p.output ++ p.el.after.map .stmt) := by
  simp [whole, output, printed, printedOpen, printedClose, startTag]

end Place

section Places

variable {front back : List Item} {p : Place}

/-- The places that begin with an element are its own, those inside it unless it is void, and those behind it. -/
theorem mem_placesAll_element {el : Element} {children rest : List Node} :
    p ∈ placesAll front back (.element el children :: rest) ↔
      p = ⟨el, children, front, printedAll rest ++ back⟩ ∨
        (Template.isVoid el.tag = false ∧
          p ∈ placesAll (front ++ printedOpen el) (printedClose el ++ (printedAll rest ++ back)) children) ∨
        p ∈ placesAll (front ++ printed (.element el children)) back rest := by
  rw [placesAll, places, List.mem_append, List.mem_cons, or_assoc]
  rcases Template.isVoid el.tag with _ | _ <;> simp

/-- The places that begin with a loop are those in its body and those behind it. -/
theorem mem_placesAll_loop {item : String} {source : Expr} {body rest : List Node} {location : Template.Location} :
    p ∈ placesAll front back (.loop item source body location :: rest) ↔
      p ∈ placesAll (front ++ [.openLoop item source]) (.close :: (printedAll rest ++ back)) body ∨
        p ∈ placesAll (front ++ printed (.loop item source body location)) back rest := by
  rw [placesAll, places, List.mem_append]

/-- At its place, an element is printed where the whole forest is. -/
theorem print_of_mem_placesAll {nodes : List Node} (h : p ∈ placesAll front back nodes) :
    p.front ++ (p.whole ++ p.back) = front ++ (printedAll nodes ++ back) := by
  induction nodes using Template.forestInduction generalizing front back with
  | nil => cases h
  | element el children rest inside after =>
    rcases mem_placesAll_element.mp h with rfl | ⟨hvoid, hin⟩ | hrest
    · simp [Place.whole, printedAll]
    · rw [inside hin]
      simp [printedAll, printed, hvoid]
    · rw [after hrest]
      simp [printedAll]
  | loop item source body location rest inside after =>
    rcases mem_placesAll_loop.mp h with hin | hrest
    · rw [inside hin]
      simp [printedAll, printed]
    · rw [after hrest]
      simp [printedAll]
  | _ =>
    rename_i after
    rw [after h]
    simp [printedAll]

/-- The places of a forest lie between what is printed before it and what is printed after it. -/
theorem around_of_mem_placesAll {nodes : List Node} (h : p ∈ placesAll front back nodes) :
    front <+: p.front ∧ back <:+ p.back := by
  induction nodes using Template.forestInduction generalizing front back with
  | nil => cases h
  | element el children rest inside after =>
    rcases mem_placesAll_element.mp h with rfl | ⟨-, hin⟩ | hrest
    · exact ⟨List.prefix_refl _, List.suffix_append _ _⟩
    · obtain ⟨hfront, hback⟩ := inside hin
      have hbehind : back <:+ printedClose el ++ (printedAll rest ++ back) :=
        (List.suffix_append _ _).trans (List.suffix_append _ _)
      exact ⟨(List.prefix_append _ _).trans hfront, hbehind.trans hback⟩
    · obtain ⟨hfront, hback⟩ := after hrest
      exact ⟨(List.prefix_append _ _).trans hfront, hback⟩
  | loop item source body location rest inside after =>
    rcases mem_placesAll_loop.mp h with hin | hrest
    · obtain ⟨hfront, hback⟩ := inside hin
      have hbehind : back <:+ .close :: (printedAll rest ++ back) :=
        (List.suffix_append _ _).trans (List.suffix_cons _ _)
      exact ⟨(List.prefix_append _ _).trans hfront, hbehind.trans hback⟩
    · obtain ⟨hfront, hback⟩ := after hrest
      exact ⟨(List.prefix_append _ _).trans hfront, hback⟩
  | _ =>
    rename_i after
    obtain ⟨hfront, hback⟩ := after h
    exact ⟨(List.prefix_append _ _).trans hfront, hback⟩

/-- The elements that are printed are elements of the forest, and they stand in it with what is in them. -/
theorem subtree_of_mem_placesAll {nodes : List Node} (h : p ∈ placesAll front back nodes) :
    p.el ∈ elementsAll nodes ∧
      ∀ q : Node → Prop, Everywhere q nodes → Everywhere q [.element p.el p.children] := by
  induction nodes using Template.forestInduction generalizing front back with
  | nil => cases h
  | element el children rest inside after =>
    simp only [elementsAll, elements, List.cons_append, List.mem_cons, List.mem_append]
    rcases mem_placesAll_element.mp h with rfl | ⟨-, hin⟩ | hrest
    · refine ⟨.inl rfl, fun q hq => ?_⟩
      obtain ⟨hel, hchildren, -⟩ := Template.everywhere_element.mp hq
      exact Template.everywhere_element.mpr ⟨hel, hchildren, Template.throughout_nil⟩
    · obtain ⟨hmem, hall⟩ := inside hin
      exact ⟨.inr (.inl hmem), fun q hq => hall q (Template.everywhere_element.mp hq).2.1⟩
    · obtain ⟨hmem, hall⟩ := after hrest
      exact ⟨.inr (.inr hmem), fun q hq => hall q (Template.everywhere_element.mp hq).2.2⟩
  | loop item source body location rest inside after =>
    simp only [elementsAll, elements, List.mem_append]
    rcases mem_placesAll_loop.mp h with hin | hrest
    · obtain ⟨hmem, hall⟩ := inside hin
      exact ⟨.inl hmem, fun q hq => hall q (Template.everywhere_loop.mp hq).2.1⟩
    · obtain ⟨hmem, hall⟩ := after hrest
      exact ⟨.inr hmem, fun q hq => hall q (Template.everywhere_loop.mp hq).2.2⟩
  | text value location rest after =>
    obtain ⟨hmem, hall⟩ := after h
    exact ⟨hmem, fun q hq => hall q (Template.throughout_text.mp hq).2⟩
  | expression expr location rest after =>
    obtain ⟨hmem, hall⟩ := after h
    exact ⟨hmem, fun q hq => hall q (Template.throughout_expression.mp hq).2⟩
  | code stmt rest after =>
    obtain ⟨hmem, hall⟩ := after h
    exact ⟨hmem, fun q hq => hall q (Template.throughout_code.mp hq).2⟩

end Places

/-! ## The pair of an element -/

/-- In the print `items`, a pair of brackets stands at the place of an element that hands over `h`, `vars` being the
variables that are declared before it.
* The pair stands around the element itself (`print`), and so do its lines in the render function, at one depth
(`lines`).
* The brackets inside match each other, so the two match (`matching`). The elements inside, with their own pairs, lie
strictly between the two (`nested`). -/
structure Place.Enclosed (p : Place) (items : List Item) (vars : List Stmt) (h : Handover) : Prop where
  print : items = p.front ++ vars.map .stmt ++
    .stmt (Site.depositStmt h) :: (p.output ++ .stmt Site.clearStmt :: p.back)
  lines : ∃ depth, merged (itemEntries 1 items) = merged (itemEntries 1 (p.front ++ vars.map .stmt)) ++
    ⟨depth, (Site.depositStmt h).print⟩ ::
      (merged (itemEntries depth p.output) ++ ⟨depth, Site.clearStmt.print⟩ :: merged (itemEntries depth p.back))
  matching : ∃ w : DyckWord, w.toList = brackets p.output
  nested : ∀ q ∈ p.inner, p.front ++ vars.map .stmt ++ [.stmt (Site.depositStmt h)] <+: q.front ∧
    .stmt Site.clearStmt :: p.back <:+ q.back

/-- Between the two calls the depth comes back to where it was, and each of them has a line of its own. -/
theorem merged_pair {depth : Nat} (front back : List Item) (node : Node) (first last : Stmt) :
    let inside := front.foldl Item.depthAfter depth
    merged (itemEntries depth (front ++ .stmt first :: (printed node ++ .stmt last :: back))) =
      merged (itemEntries depth front) ++ ⟨inside, first.print⟩ ::
        (merged (itemEntries inside (printed node)) ++ ⟨inside, last.print⟩ :: merged (itemEntries inside back)) := by
  intro inside
  have hnode : itemEntries inside (printed node) = entries inside node := by
    simpa [itemEntries] using itemEntries_printed inside [] node
  have hfirst : itemEntries inside (.stmt first :: (printed node ++ .stmt last :: back)) =
      .line ⟨inside, first.print⟩ :: (entries inside node ++ .line ⟨inside, last.print⟩ :: itemEntries inside back) :=
    congrArg (Entry.line ⟨inside, first.print⟩ :: ·) (itemEntries_printed inside (.stmt last :: back) node)
  rw [itemEntries_append, hfirst, merged_append_line, merged_append_line, hnode]

/-- A pair that has been put around a printed element is as it should be. -/
theorem Place.enclosed {p : Place} {nodes : List Node} {vars : List Stmt} {h : Handover}
    (mem : p ∈ placesAll [] [] nodes) (framed : Everywhere Framed nodes)
    (before : p.el.before = vars ++ [Site.depositStmt h]) (after : p.el.after = [Site.clearStmt]) :
    p.Enclosed (printedAll nodes) vars h := by
  have hwhole : printedAll nodes = p.front ++ (p.whole ++ p.back) := by
    simpa using (print_of_mem_placesAll mem).symm
  have hprint : printedAll nodes = p.front ++ vars.map .stmt ++
      .stmt (Site.depositStmt h) :: (p.output ++ .stmt Site.clearStmt :: p.back) := by
    rw [hwhole, p.whole_eq, before, after]
    simp
  have hlines := @merged_pair 1 (p.front ++ vars.map .stmt) p.back
    (.element { p.el with before := [], after := [] } p.children) (Site.depositStmt h) Site.clearStmt
  refine ⟨hprint, ⟨_, (congrArg (fun items => merged (itemEntries 1 items)) hprint).trans hlines⟩, ?_, ?_⟩
  · -- Without the pair it is still an element that prints well-nested brackets, and its print is what the pair holds.
    have hbare : Everywhere Framed [.element { p.el with before := [], after := [] } p.children] := by
      have hsub := (subtree_of_mem_placesAll mem).2 Framed framed
      exact Template.everywhere_element.mpr ⟨.inl ⟨rfl, rfl⟩, (Template.everywhere_element.mp hsub).2⟩
    refine ⟨_, (brackets_printedAll hbare).symm.trans ?_⟩
    rw [printedAll, printedAll, List.append_nil]
    rfl
  · intro q hq
    rw [Place.inner] at hq
    split at hq
    · cases hq
    · obtain ⟨hfront, hback⟩ := around_of_mem_placesAll hq
      constructor
      · refine List.IsPrefix.trans ?_ hfront
        rw [printedOpen, before]
        simp [List.append_assoc]
      · refine List.IsSuffix.trans ?_ hback
        rw [printedClose, after, List.append_assoc]
        exact List.suffix_append _ _

/-! ## The helpers stand nowhere else -/

section Quiet

variable {reads : String → String → Prop} {ds : List Declaration} {widgetsModule : String}

/-- None of these expressions mentions a helper of the two calls. -/
def Quiet (reads : String → String → Prop) (es : List Expr) : Prop :=
  ∀ e ∈ es, ∀ name ∈ ["__widgetArgs", "_cleanupWidgetArgs"], ¬ e.Mentions (reads name) name

/-- Expressions are quiet if each of them is. -/
theorem quiet_cons {e : Expr} {es : List Expr} : Quiet reads (e :: es) ↔ Quiet reads [e] ∧ Quiet reads es := by
  simp [Quiet]

/-- A name that is none of the two is quiet. -/
theorem quiet_ident {name : String} (other : name ∉ ["__widgetArgs", "_cleanupWidgetArgs"]) :
    Quiet reads [.ident name] := by
  intro e he name' hname hm
  obtain rfl := List.mem_singleton.mp he
  obtain rfl := Expr.mentions_ident.mp hm
  exact other hname

/-- A property of a quiet object is quiet. -/
theorem quiet_member {object : Expr} {key : String} (h : Quiet reads [object]) : Quiet reads [object.member key] := by
  intro e he name hname hm
  obtain rfl := List.mem_singleton.mp he
  exact h object (List.mem_singleton_self _) name hname (Expr.mentions_member.mp hm)

/-- A call of something quiet with quiet arguments is quiet. -/
theorem quiet_call {callee : Expr} {args : List Expr} (callee' : Quiet reads [callee]) (all : Quiet reads args) :
    Quiet reads [callee.call args] := by
  intro e he name hname hm
  obtain rfl := List.mem_singleton.mp he
  rcases Expr.mentions_call.mp hm with hcallee | ⟨a, ha, hm⟩
  · exact callee' callee (List.mem_singleton_self _) name hname hcallee
  · exact all a ha name hname hm

/-- A bare template that does not mention the two helpers. -/
def quietSources (reads : String → String → Prop) (declarations : List Declaration) : Sources where
  expr e := Quiet reads [e]
  stmt _ := False
  binding b := Quiet reads [b.helper, b.widgetType]
  item _ := True
  declarations := declarations

/-- A node without statements whose expressions are quiet can be drawn on. -/
theorem givenNode_of_quiet {node : Node} (bare : node.statements = []) (quiet : Quiet reads node.exprs) :
    GivenNode (quietSources reads ds) node := by
  refine givenNode_of_exprs ?_ ?_ ?_ fun _ _ => trivial
  · intro e he e' he'
    obtain rfl := List.mem_singleton.mp he'
    exact quiet e' he
  · rw [bare]
    exact nofun
  · exact fun b hb e he => quiet e (Node.mem_exprs_of_binding hb e he)

/-- Variables that describe widgets have other names, so what weaving builds mentions none of the two helpers. -/
theorem BuiltExpr.quiet {e : Expr} (h : BuiltExpr (quietSources reads ds) e) (header : IsHeader widgetsModule ds) :
    Quiet reads [e] := by
  intro e' he' name hname hm
  obtain rfl := List.mem_singleton.mp he'
  have hhelper : IsHelperName name := .inl (by simp at hname ⊢; tauto)
  have hown : ∀ e, (quietSources reads ds).expr e → ¬ e.Mentions (reads name) name :=
    fun e own => own e (List.mem_singleton_self _) name hname
  obtain ⟨d, hd, rfl, u, path, hcode⟩ := h.describes hhelper hown hm
  obtain ⟨front, hfollows⟩ := header.follows_of_mem hd
  have hother : ∀ name ∈ ["__widgetArgs", "_cleanupWidgetArgs"], ¬ "__widgetType".toList <+: name.toList := by decide
  exact hother _ hname (hfollows.isTypeName hcode).starts

/-- Expressions that weaving builds are quiet. -/
theorem BuiltExpr.quiet_all {es : List Expr} (h : ∀ e ∈ es, BuiltExpr (quietSources reads ds) e)
    (header : IsHeader widgetsModule ds) : Quiet reads es :=
  fun e he => (h e he).quiet header e (List.mem_singleton_self e)

/-- A statement that weaving builds declares a variable, or it is a call of a helper. -/
theorem BuiltStmt.quiet {s : Stmt} (h : BuiltStmt (quietSources reads ds) s) (header : IsHeader widgetsModule ds) :
    (∃ name value, s = .var name value ∧ Quiet reads [value]) ∨
      ∃ callee args, s = .expr ((Expr.ident callee).call args) ∧ Quiet reads args := by
  have hout : BuiltExpr (quietSources reads ds) .out := .parameter (by decide)
  cases h with
  | given own => exact own.elim
  | idVariable n built => exact .inl ⟨_, _, rfl, built.quiet header⟩
  | slot place content =>
    refine .inr ⟨_, _, rfl, BuiltExpr.quiet_all ?_ header⟩
    simp only [List.forall_mem_cons]
    exact ⟨hout, place, content, .parameter (by decide), List.forall_mem_nil _⟩
  | deposit args => exact .inr ⟨_, _, rfl, BuiltExpr.quiet_all args header⟩
  | clear => exact .inr ⟨_, _, rfl, hout.quiet header⟩

/-- A call that is no bracket is not a call of one of the two names. -/
theorem bracket?_call {callee : String} (args : List Expr)
    (none : (Stmt.expr ((Expr.ident callee).call args)).bracket? = none) :
    callee ∉ ["__widgetArgs", "_cleanupWidgetArgs"] := by
  intro hmem
  rcases List.mem_cons.mp hmem with rfl | hmem
  · cases none
  · obtain rfl := List.mem_singleton.mp hmem
    cases none

/-- A printed item mentions the two helpers only as the name of a bracket. -/
theorem BuiltItem.quiet {item : Item} (h : BuiltItem (quietSources reads ds) item)
    (header : IsHeader widgetsModule ds) :
    (item.bracket? = none → Quiet reads item.printedExprs) ∧
      ∀ callee args, item = .stmt (.expr ((Expr.ident callee).call args)) → Quiet reads args := by
  cases h with
  | markup | close => exact ⟨fun _ => nofun, nofun⟩
  | stmt built =>
    rcases built.quiet header with ⟨name, value, rfl, hvalue⟩ | ⟨callee, args, rfl, hargs⟩
    · exact ⟨fun _ => hvalue, nofun⟩
    · refine ⟨fun none => quiet_call (quiet_ident (bracket?_call args none)) hargs, ?_⟩
      intro callee' args' heq
      cases heq
      exact hargs
  | helper function built =>
    have hhelpers : Quiet reads [.ident "__markoHelpers"] := quiet_ident (by decide)
    have hfunction : Quiet reads [(Expr.ident "__markoHelpers").member function] := quiet_member hhelpers
    have hcall := quiet_call hfunction (BuiltExpr.quiet_all built header)
    exact ⟨fun _ => quiet_call (quiet_member (quiet_ident (by decide))) hcall, nofun⟩
  | openWidget built =>
    refine ⟨fun _ => quiet_cons.mpr ⟨quiet_ident (by decide), ?_⟩, nofun⟩
    cases built with
    | given own => exact own
    | root built => exact quiet_cons.mpr ⟨quiet_ident (by decide), built.quiet header⟩
  | openLoop named own => exact ⟨fun _ => own, nofun⟩

end Quiet

/-! ## The pairs of a template -/

/-- **The calls that hand over are well nested.** Take a template without statements of its own whose expressions do not
mention the two helpers. Its render function consists of the printed items, and as brackets the depositing and clearing
calls among them form a Dyck word that follows the nesting of the printed elements. The two helpers are mentioned
nowhere else. Each printed element is the outcome of a turn of weaving. If it hands over something, the pair at its
place encloses the element with all that is in it and nothing else, and the pairs of the elements inside lie strictly
between the two. If not, it has no brackets. -/
theorem handover_pairs_nest (reads : String → String → Prop) (settings : Template.Settings) (files : Path.Files)
    (nodes : List Node) (bare : Everywhere (fun node => node.statements = []) nodes)
    (quiet : Everywhere (fun node => Quiet reads node.exprs) nodes) :
    let u : CompileUnit := { settings, files }
    let woven := weave u nodes
    let items := printedAll woven.1
    (generate woven.2 woven.1).1.body = merged (itemEntries 1 items) ∧
      brackets items = (pairsAll woven.1).toList ∧
      (∀ item ∈ items, (item.bracket? = none → Quiet reads item.printedExprs) ∧
        ∀ callee args, item = .stmt (.expr ((Expr.ident callee).call args)) → Quiet reads args) ∧
      ∀ p ∈ placesAll [] [] woven.1, ∃ t ∈ turnsAll false u nodes, p.el = t.woven ∧
        (∀ s ∈ t.site.el.before, s.bracket? = none) ∧ isPaired p.el = t.site.handed?.isSome ∧
        match t.site.handed? with
        | some h => p.Enclosed items t.site.el.before h
        | none => items = p.front ++ t.site.el.before.map .stmt ++ (p.output ++ p.back) := by
  intro u woven items
  have hforest : woven = weaveForest false u nodes := weave_eq rfl nodes
  have hwoven : Woven false u nodes woven.1 woven.2 := by
    rw [hforest]
    exact weaveForest_woven false u nodes
  have hframed : Everywhere Framed woven.1 := hwoven.framed bare
  refine ⟨?_, brackets_printedAll hframed, ?_, ?_⟩
  · rw [itemEntries_printedAll_one]
    exact body_merged woven.2 woven.1
  · have hbuilt : Everywhere (BuiltNode (quietSources reads (generate woven.2 woven.1).1.declarations)) woven.1 :=
      built_weave settings files (extends_generate woven.2 woven.1)
        fun o ho => givenNode_of_quiet (bare o ho) (quiet o ho)
    exact fun item hitem => (built_printedAll hbuilt item hitem).quiet (isHeader_generate settings files nodes)
  -- a printed element is what one of the turns has made of its element
  · intro p hp
    have helements : elementsAll woven.1 = (turnsAll false u nodes).map Turn.woven := by
      rw [hforest]
      exact elementsAll_weaveForest false u nodes
    obtain ⟨t, ht, hel⟩ := List.mem_map.mp (helements ▸ (subtree_of_mem_placesAll hp).1)
    obtain ⟨hsilent, hbefore, hafter⟩ := t.statements_woven (bare_of_mem_turnsAll bare ht)
    refine ⟨t, ht, hel.symm, hsilent.before, ?_⟩
    rw [hel] at hbefore hafter
    -- what the turn hands over decides the statements around the element
    rcases hh : t.site.handed? with _ | h
    · rw [hh] at hbefore hafter
      refine ⟨isPaired_eq_false (congrArg (List.filterMap Stmt.bracket?) hafter), ?_⟩
      have hprint : items = p.front ++ (p.whole ++ p.back) := by
        simpa using (print_of_mem_placesAll hp).symm
      rw [hprint, p.whole_eq, hbefore, hafter]
      simp
    · rw [hh] at hbefore hafter
      have hpaired := isPaired_eq_true (congrArg (List.filterMap Stmt.bracket?) hafter)
      exact ⟨hpaired, Place.enclosed hp hframed hbefore hafter⟩

/-- In a root, a custom element with a handler encloses another one, which a loop repeats: the pair of the inner element
lies inside the pair of the outer one. -/
theorem handover_pairs_nest_of_loop :
    let nodes : List Node :=
      [.element { tag := "div", attributes := [⟨"w-bind", some (.str "./w")⟩] }
        [.element { tag := "app-x", custom := true, attributes := [⟨"w-onclick", some (.str "go")⟩] }
          [.loop "item" (.raw "data.items")
            [.element
              { tag := "app-y", custom := true, attributes := [⟨"w-id", none⟩, ⟨"w-onclick", some (.str "go")⟩] }
              []] .start]]]
    Everywhere (fun node => node.statements = []) nodes ∧
      Everywhere (fun node => Quiet (fun _ _ => False) node.exprs) nodes ∧
      brackets (printedAll (weave {} nodes).1) = (pairsAll (weave {} nodes).1).toList ∧
      brackets (printedAll (weave {} nodes).1) = [.U, .U, .D, .D] := by
  intro nodes
  have bare : Everywhere (fun node => node.statements = []) nodes := by simp [nodes, Everywhere, Node.statements]
  have quiet : Everywhere (fun node => Quiet (fun _ _ => False) node.exprs) nodes := by
    simp [nodes, Everywhere, Quiet, Node.exprs, Node.outerExprs, Node.innerExprs]
  obtain ⟨-, hbrackets, -⟩ := handover_pairs_nest _ {} {} nodes bare quiet
  exact ⟨bare, quiet, hbrackets, by decide +kernel⟩

end Compile

end WidgetTemplates
