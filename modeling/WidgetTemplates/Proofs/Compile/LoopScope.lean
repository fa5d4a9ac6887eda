import WidgetTemplates.Proofs.Compile.CarriedTexts
import WidgetTemplates.Proofs.Template.Spots

/-!
# Which expressions leave their loops

An expression of a template that stands in a loop can use the item of the loop, so wherever weaving writes it, it has
to stay in that loop. Weaving keeps the loops where they are (`loopsAll_weaveForest`) and writes an expression around
the element that it comes from, with one exception: the id of the element that marks the place of a body is also
written on the root of the widget, for which all that counts is that the element belongs to the root. A loop between
the two is left behind (`Leaks`).

The main result is `texts_stay_in_loops_iff`: nothing leaves its loops exactly if no root leaks.
-/

namespace WidgetTemplates.Compile

open Script (Expr Stmt)
open Template (Element Node Spot spotsAll looseSpotsAll loopsAll expressionTexts)

/-- Whether a node is an element that marks the place of a provided body. -/
def marksBodyAt : Node → Bool
  | .element el _ => marksBody el
  | _ => false

/-- The expression texts in the id that the template gives the element that a node is. -/
def idTextsAt : Node → List String
  | .element el _ => idTexts el
  | _ => []

section Spots

variable (opens : Element → Bool) (q : Spot)

/-- The place of the body in the widget that the element at a spot opens: the last element that marks one among those
that belong to the widget. The root is left out, for its own mark holds no expression. -/
def bodySpot? : Option Spot :=
  match q.node with
  | .element el children =>
    if opens el then
      ((looseSpotsAll opens q.loops q.address 0 children).filter fun p => marksBodyAt p.node).getLast?
    else none
  | _ => none

/-- The expression texts that the root at a spot borrows from the place of its body. -/
def borrowedAt : List String := ((bodySpot? opens q).map fun p => idTextsAt p.node).getD []

/-- The root at a spot leaks: the place of its body has an id with an expression, and there is a loop in between. -/
def Leaks : Prop := ∃ p, bodySpot? opens q = some p ∧ p.loops ≠ q.loops ∧ idTextsAt p.node ≠ []

end Spots

section Forests

variable {opens : Element → Bool} {loops : List (List Nat)} {address : List Nat} {i : Nat} {q p : Spot}

/-- The place of a body is below its root. -/
theorem mem_of_bodySpot? {nodes : List Node} (h : bodySpot? opens q = some p)
    (mem : q ∈ spotsAll loops address i nodes) : p ∈ spotsAll loops address i nodes ∧ q.loops <:+ p.loops := by
  rw [bodySpot?] at h
  split at h
  · next el children node =>
    split at h
    · have hinside : p ∈ spotsAll q.loops q.address 0 children :=
        Template.looseSpotsAll_subset opens children (List.mem_filter.mp (List.mem_of_getLast? h)).1
      exact ⟨Template.subset_spotsAll mem node hinside, Template.suffix_loops hinside⟩
    · cases h
  · cases h

/-- The texts of the id at a node are texts of the node. -/
theorem idTextsAt_subset (node : Node) : idTextsAt node ⊆ node.texts := by
  cases node with
  | element el children => exact idTexts_subset el children
  | _ => exact List.nil_subset _

/-- What a place borrows are texts of an id at the node that it marks as its body. -/
theorem mem_borrowedAt {code : String} (h : code ∈ borrowedAt opens q) :
    ∃ p, bodySpot? opens q = some p ∧ code ∈ idTextsAt p.node := by
  rw [borrowedAt] at h
  rcases hp : bodySpot? opens q with _ | p
  · rw [hp] at h
    cases h
  · rw [hp] at h
    exact ⟨p, rfl, h⟩

/-- A leaf borrows nothing. -/
theorem borrowedAt_leaf (leaf : IsLeaf q.node) : borrowedAt opens q = [] := by
  obtain ⟨node, address, loops⟩ := q
  cases node with
  | element => exact leaf.elim
  | _ => rfl

/-- A node that weaving leaves as it is has one spot. -/
theorem spotsAll_leaf {node : Node} (leaf : IsLeaf node) (rest : List Node) :
    spotsAll loops address i (node :: rest) = ⟨node, i :: address, loops⟩ :: spotsAll loops address (i + 1) rest := by
  cases node with
  | element => exact leaf.elim
  | loop => exact leaf.elim
  | _ => rfl

/-! ## Roots in turn -/

variable (loops address i) in
/-- The turns outside the widgets that open in a forest are those of its loose spots. -/
theorem map_node_looseSpotsAll (inLoop : Bool) {u : CompileUnit} (hopens : u.opens = opens) (nodes : List Node) :
    (looseSpotsAll opens loops address i nodes).map Spot.node = (looseTurnsAll inLoop u nodes).map Turn.node := by
  induction nodes using Template.forestInduction generalizing inLoop u loops address i with
  | nil => rfl
  | element el children rest inside after =>
    let t : Turn := ⟨el, children, u, inLoop⟩
    have hbound : t.bound = opens el := t.bound_eq.trans (congrFun hopens el)
    rw [looseSpotsAll, looseTurnsAll, List.map_append, List.map_append,
      after _ _ _ _ (t.opens_finished.trans hopens), Node.looseSpots, looseTurns]
    change _ = ((if t.bound then [] else t :: looseTurnsAll inLoop t.site.unit children).map Turn.node) ++ _
    rw [hbound]
    split
    · rfl
    · rw [List.map_cons, List.map_cons, inside _ _ _ _ (t.opens_site.trans hopens)]
      rfl
  | loop item source body location rest inside after =>
    rw [looseSpotsAll, looseTurnsAll, List.map_append, List.map_append]
    exact congrArg₂ _ (inside _ _ _ _ hopens) (after _ _ _ _ ((opens_weaveForest _ _ _).trans hopens))
  | _ =>
    rename_i after
    exact after _ _ _ _ hopens

variable (loops address i) in
/-- The last place of a body in a forest, as spots and as turns tell it. -/
theorem getLast?_loose (inLoop : Bool) {u : CompileUnit} (hopens : u.opens = opens) (nodes : List Node) :
    ((looseSpotsAll opens loops address i nodes).filter fun p => marksBodyAt p.node).getLast?.map Spot.node =
      (marking (looseTurnsAll inLoop u nodes)).getLast?.map Turn.node := by
  have hmap := congrArg (List.filter marksBodyAt) (map_node_looseSpotsAll loops address i inLoop hopens nodes)
  rw [List.filter_map, List.filter_map] at hmap
  rw [← List.getLast?_map, ← List.getLast?_map]
  exact congrArg List.getLast? hmap

/-- A root borrows the same texts in its turn as at its spot. -/
theorem Turn.borrowed_eq (t : Turn) (hopens : t.unit.opens = opens) (node : q.node = t.node) :
    t.borrowed = borrowedAt opens q := by
  have hbound : t.bound = opens t.el := t.bound_eq.trans (congrFun hopens t.el)
  rw [Turn.borrowed, borrowedAt, bodySpot?, node, hbound, Turn.node]
  dsimp only
  split
  · have hlast := congrArg (Option.map idTextsAt)
      (getLast?_loose q.loops q.address 0 t.inLoop (t.opens_site.trans hopens) t.children)
    rw [Option.map_map, Option.map_map] at hlast
    exact congrArg (Option.getD · []) hlast.symm
  · rfl

/-! ## What weaving moves -/

/-- **Weaving keeps the loops where they are.** -/
theorem loopsAll_weaveForest (inLoop : Bool) (u : CompileUnit) (nodes : List Node) :
    loopsAll loops address i (weaveForest inLoop u nodes).1 = loopsAll loops address i nodes := by
  simp only [loopsAll]
  induction nodes using weavingInduction generalizing inLoop u loops address i with
  | nil => rfl
  | element el children rest inside after =>
    let t : Turn := ⟨el, children, u, inLoop⟩
    -- the calls added behind the children are no loops
    have hstatements : ∀ (stmts : List Stmt) (j : Nat),
        (spotsAll loops (i :: address) j (stmts.map .code)).filterMap Spot.loop? = [] := by
      intro stmts j
      refine List.filterMap_eq_nil_iff.mpr fun q hq => ?_
      obtain ⟨-, stmt, -, hnode⟩ := Template.of_mem_spotsAll_statements hq
      rw [Spot.loop?, hnode]
    rw [weaveForest_element, Template.spotsAll_element, Template.spotsAll_element, Template.spotsAll_append]
    rw [List.filterMap_cons_none rfl, List.filterMap_cons_none rfl, List.filterMap_append, List.filterMap_append,
      List.filterMap_append, hstatements, List.append_nil, inside, after]
  | loop item source body location rest inside after =>
    rw [weaveForest_loop, Template.spotsAll_loop, Template.spotsAll_loop]
    have hloop : ∀ body : List Node, Spot.loop? ⟨.loop item source body location, i :: address, loops⟩ =
        some (i :: address, item, source, location) := fun _ => rfl
    rw [List.filterMap_cons_some (hloop _), List.filterMap_cons_some (hloop _), List.filterMap_append,
      List.filterMap_append, inside, after]
  | leaf node rest leaf after =>
    rw [weaveForest_leaf _ _ _ leaf, spotsAll_leaf leaf, spotsAll_leaf leaf, List.filterMap_cons, List.filterMap_cons,
      after]

/-- A text in a woven forest comes from a spot in the same loops: that spot carries it, or the root there borrows
it. -/
theorem carried_weaveForest {inLoop : Bool} {u : CompileUnit} {nodes : List Node}
    (hopens : u.opens = opens) (mem : p ∈ spotsAll loops address i (weaveForest inLoop u nodes).1)
    {code : String} (hcode : code ∈ p.node.texts) :
    ∃ q ∈ spotsAll loops address i nodes, q.loops = p.loops ∧
      (code ∈ q.node.texts ∨ code ∈ borrowedAt opens q) := by
  induction nodes using weavingInduction generalizing inLoop u loops address i with
  | nil => cases mem
  | element el children rest inside after =>
    let t : Turn := ⟨el, children, u, inLoop⟩
    let root : Spot := ⟨.element el children, i :: address, loops⟩
    -- a woven element carries its own texts and those that it borrows
    have hroot : ∀ {code}, code ∈ t.node.texts ++ t.borrowed →
        code ∈ root.node.texts ∨ code ∈ borrowedAt opens root := by
      intro code hcode
      rw [t.borrowed_eq (q := root) hopens rfl] at hcode
      exact List.mem_append.mp hcode
    rw [weaveForest_element] at mem
    rcases Template.mem_spotsAll_element.mp mem with rfl | mem | mem
    · exact ⟨root, List.mem_cons_self, rfl, hroot ((t.texts_finished _).1 hcode)⟩
    · rw [Template.spotsAll_append, List.mem_append] at mem
      rcases mem with mem | mem
      · obtain ⟨q, hq, hfrom⟩ := inside (t.opens_site.trans hopens) mem
        exact ⟨q, Template.mem_spotsAll_element.mpr (.inr (.inl hq)), hfrom⟩
      · obtain ⟨hloops, stmt, hstmt, hnode⟩ := Template.of_mem_spotsAll_statements mem
        -- a call behind the children carries texts of this element, too
        rw [hnode] at hcode
        exact ⟨root, List.mem_cons_self, hloops.symm, hroot ((t.texts_finished []).2 stmt hstmt hcode)⟩
    · obtain ⟨q, hq, hfrom⟩ := after (t.opens_finished.trans hopens) mem
      exact ⟨q, Template.mem_spotsAll_element.mpr (.inr (.inr hq)), hfrom⟩
  | loop item source body location rest inside after =>
    rw [weaveForest_loop] at mem
    rcases Template.mem_spotsAll_loop.mp mem with rfl | mem | mem
    · exact ⟨_, List.mem_cons_self, rfl, .inl hcode⟩
    · obtain ⟨q, hq, hfrom⟩ := inside hopens mem
      exact ⟨q, Template.mem_spotsAll_loop.mpr (.inr (.inl hq)), hfrom⟩
    · obtain ⟨q, hq, hfrom⟩ := after ((opens_weaveForest _ _ _).trans hopens) mem
      exact ⟨q, Template.mem_spotsAll_loop.mpr (.inr (.inr hq)), hfrom⟩
  | leaf node rest leaf after =>
    rw [weaveForest_leaf _ _ _ leaf, spotsAll_leaf leaf] at mem
    rw [spotsAll_leaf leaf]
    rcases List.mem_cons.mp mem with rfl | mem
    · exact ⟨_, List.mem_cons_self, rfl, .inl hcode⟩
    · obtain ⟨q, hq, hfrom⟩ := after hopens mem
      exact ⟨q, List.mem_cons_of_mem _ hq, hfrom⟩

/-- What a root borrows is carried by the woven root, in the same loops. -/
theorem borrowed_weaveForest (inLoop : Bool) {u : CompileUnit} {nodes : List Node}
    (hopens : u.opens = opens) (mem : q ∈ spotsAll loops address i nodes) {code : String}
    (hcode : code ∈ borrowedAt opens q) :
    ∃ p ∈ spotsAll loops address i (weaveForest inLoop u nodes).1, p.loops = q.loops ∧ code ∈ p.node.texts := by
  induction nodes using weavingInduction generalizing inLoop u loops address i with
  | nil => cases mem
  | element el children rest inside after =>
    let t : Turn := ⟨el, children, u, inLoop⟩
    rw [weaveForest_element]
    rcases Template.mem_spotsAll_element.mp mem with rfl | mem | mem
    · rw [← t.borrowed_eq hopens rfl] at hcode
      exact ⟨_, List.mem_cons_self, rfl, t.borrowed_subset _ hcode⟩
    · obtain ⟨p, hp, hfrom⟩ := inside inLoop (t.opens_site.trans hopens) mem
      refine ⟨p, Template.mem_spotsAll_element.mpr (.inr (.inl ?_)), hfrom⟩
      rw [Template.spotsAll_append]
      exact List.mem_append_left _ hp
    · obtain ⟨p, hp, hfrom⟩ := after inLoop (t.opens_finished.trans hopens) mem
      exact ⟨p, Template.mem_spotsAll_element.mpr (.inr (.inr hp)), hfrom⟩
  | loop item source body location rest inside after =>
    rw [weaveForest_loop]
    rcases Template.mem_spotsAll_loop.mp mem with rfl | mem | mem
    · cases hcode
    · obtain ⟨p, hp, hfrom⟩ := inside true hopens mem
      exact ⟨p, Template.mem_spotsAll_loop.mpr (.inr (.inl hp)), hfrom⟩
    · obtain ⟨p, hp, hfrom⟩ := after inLoop ((opens_weaveForest _ _ _).trans hopens) mem
      exact ⟨p, Template.mem_spotsAll_loop.mpr (.inr (.inr hp)), hfrom⟩
  | leaf node rest leaf after =>
    rw [weaveForest_leaf _ _ _ leaf]
    rw [spotsAll_leaf leaf] at mem ⊢
    rcases List.mem_cons.mp mem with rfl | mem
    · rw [borrowedAt_leaf leaf] at hcode
      cases hcode
    · obtain ⟨p, hp, hfrom⟩ := after inLoop hopens mem
      exact ⟨p, List.mem_cons_of_mem _ hp, hfrom⟩

/-! ## Leaving a loop -/

/-- A text in a woven forest is carried by a spot of the forest, and if that spot is in other loops, a root leaks. -/
theorem exists_carrier {inLoop : Bool} {u : CompileUnit} {nodes : List Node}
    (mem : p ∈ spotsAll loops address i (weaveForest inLoop u nodes).1) {code : String} (hcode : code ∈ p.node.texts) :
    ∃ q ∈ spotsAll loops address i nodes, code ∈ q.node.texts ∧
      (q.loops = p.loops ∨ ∃ root ∈ spotsAll loops address i nodes, Leaks u.opens root) := by
  obtain ⟨q, hq, hloops, hown | hborrowed⟩ := carried_weaveForest rfl mem hcode
  · exact ⟨q, hq, hown, .inl hloops⟩
  · obtain ⟨x, hx, hid⟩ := mem_borrowedAt hborrowed
    refine ⟨x, (mem_of_bodySpot? hx hq).1, idTextsAt_subset x.node hid, ?_⟩
    by_cases hsame : x.loops = q.loops
    · exact .inl (hsame.trans hloops)
    · exact .inr ⟨q, hq, x, hx, hsame, List.ne_nil_of_mem hid⟩

/-- A root that leaks carries a text that belongs further inside. -/
theorem Leaks.leaves (inLoop : Bool) {u : CompileUnit} {nodes : List Node} {root : Spot}
    (leaks : Leaks u.opens root) (mem : root ∈ spotsAll [] [] 0 nodes) :
    ∃ p ∈ spotsAll [] [] 0 (weaveForest inLoop u nodes).1, ∃ code ∈ p.node.texts,
      ∃ q ∈ spotsAll [] [] 0 nodes, code ∈ q.node.texts ∧ ¬ q.loops ⊆ p.loops := by
  obtain ⟨x, hx, hother, htexts⟩ := leaks
  obtain ⟨code, hid⟩ := List.exists_mem_of_ne_nil _ htexts
  obtain ⟨hmem, hbelow⟩ := mem_of_bodySpot? hx mem
  have hborrowed : code ∈ borrowedAt u.opens root := by
    rw [borrowedAt, hx]
    exact hid
  obtain ⟨p, hp, hloops, hcode⟩ := borrowed_weaveForest inLoop rfl mem hborrowed
  refine ⟨p, hp, code, hcode, x, hmem, idTextsAt_subset x.node hid, fun hsubset => hother ?_⟩
  -- the loops of the place begin with those of the root, and none of them is listed twice
  have hdistinct : x.loops.Nodup := Template.nodup_loops List.nodup_nil (List.forall_mem_nil _) hmem
  rw [hloops] at hsubset
  exact (hbelow.eq_of_length_le (hdistinct.subperm hsubset).length_le).symm

end Forests

/-- No expression text of a forest leaves its loops: wherever it stands in the woven one, the loops that enclose its own
node are around it. -/
def TextsStayInLoops (nodes woven : List Node) : Prop :=
  ∀ p ∈ spotsAll [] [] 0 woven, ∀ code ∈ p.node.texts, ∀ q ∈ spotsAll [] [] 0 nodes, code ∈ q.node.texts →
    q.loops ⊆ p.loops

/-- **Which expressions leave their loops.** Take a forest in which all expression texts are distinct. Weaving keeps
its loops where they are and brings in no other texts. Each text that stands in an attribute, a statement or a widget
of the woven forest is in all the loops that enclose the node it comes from, exactly if no root leaks: if the last
element that marks the place of the root's body and belongs to the root is given an id with an expression in it, no
loop lies between the two. -/
theorem texts_stay_in_loops_iff (u : CompileUnit) (nodes : List Node) (distinct : (expressionTexts nodes).Nodup) :
    loopsAll [] [] 0 (weave u nodes).1 = loopsAll [] [] 0 nodes ∧
      (∀ p ∈ spotsAll [] [] 0 (weave u nodes).1, ∀ code ∈ p.node.texts, code ∈ expressionTexts nodes) ∧
      (TextsStayInLoops nodes (weave u nodes).1 ↔ ∀ root ∈ spotsAll [] [] 0 nodes, ¬ Leaks u.opens root) := by
  refine ⟨loopsAll_weaveForest false u nodes, ?_, ?_, ?_⟩
  · intro p hp code hcode
    obtain ⟨q, hq, hown, -⟩ := exists_carrier hp hcode
    exact Template.mem_expressionTexts.mpr ⟨q, hq, hown⟩
  · intro stays root hroot leaks
    obtain ⟨p, hp, code, hcode, q, hq, hown, hleaves⟩ := leaks.leaves false hroot
    exact hleaves (stays p hp code hcode q hq hown)
  · intro tight p hp code hcode q hq hown
    obtain ⟨q', hq', hown', hloops | ⟨root, hroot, leaks⟩⟩ := exists_carrier hp hcode
    · obtain rfl := Template.eq_of_mem_texts distinct hq hq' hown hown'
      exact hloops ▸ List.Subset.refl _
    · exact absurd leaks (tight root hroot)

/-- A list of items in a root, the body going to the last of them: their id is a literal, so the root borrows nothing,
and the texts stay in the loop. -/
theorem texts_stay_in_loop_of_literal_id :
    let nodes : List Node :=
      [.element { tag := "div", attributes := [⟨"w-bind", some (.str "./w")⟩] }
        [.loop "x" (.raw "xs")
          [.element { tag := "p", attributes := [⟨"w-id", some (.str "row")⟩, ⟨"title", some (.raw "x.name")⟩,
              ⟨"w-body", none⟩] } []] .start]]
    (expressionTexts nodes).Nodup ∧ TextsStayInLoops nodes (weave {} nodes).1 := by
  intro nodes
  have hdistinct : (expressionTexts nodes).Nodup := by decide
  refine ⟨hdistinct, (texts_stay_in_loops_iff {} nodes hdistinct).2.2.mpr ?_⟩
  intro root hroot
  simp only [nodes, spotsAll, Node.spots, List.append_nil, List.mem_cons, List.not_mem_nil, or_false] at hroot
  rintro ⟨p, hp, -, htexts⟩
  rcases hroot with rfl | rfl | rfl
  · obtain rfl := Option.some.inj hp
    exact htexts rfl
  · cases hp
  · cases hp

/-- A list of items in a root, the body going to the last of them: their id is computed from the item, and the root,
which is outside the loop, names the place of the body by it. -/
theorem text_leaves_loop_of_computed_id :
    let nodes : List Node :=
      [.element { tag := "div", attributes := [⟨"w-bind", some (.str "./w")⟩] }
        [.loop "x" (.raw "xs")
          [.element { tag := "p", attributes := [⟨"w-id", some (.raw "x.id")⟩, ⟨"w-body", none⟩] } []] .start]]
    (expressionTexts nodes).Nodup ∧
      (∃ p ∈ spotsAll [] [] 0 (weave {} nodes).1, p.loops = [] ∧ "x.id" ∈ p.node.texts) ∧
      (∃ q ∈ spotsAll [] [] 0 nodes, q.loops = [[0, 0]] ∧ "x.id" ∈ q.node.texts) ∧
      ¬ TextsStayInLoops nodes (weave {} nodes).1 := by
  intro nodes
  let item : Element := { tag := "p", attributes := [⟨"w-id", some (.raw "x.id")⟩, ⟨"w-body", none⟩] }
  obtain ⟨el, children, hwoven, hvalue⟩ : ∃ el children, (weave {} nodes).1 = [.element el children] ∧
      el.value? "data-w-body" = some (.raw "x.id") := ⟨_, _, rfl, rfl⟩
  have hroot : (⟨.element el children, [0], []⟩ : Spot) ∈ spotsAll [] [] 0 (weave {} nodes).1 := by
    rw [hwoven]
    exact List.mem_cons_self
  have hcode : "x.id" ∈ (Node.element el children).texts :=
    texts_subset_of_value hvalue children (List.mem_singleton_self _)
  have hitem : (⟨.element item [], [0, 0, 0], [[0, 0]]⟩ : Spot) ∈ spotsAll [] [] 0 nodes := by
    simp [nodes, item, spotsAll, Node.spots]
  have hown : "x.id" ∈ (Node.element item []).texts := by decide
  refine ⟨by decide, ⟨_, hroot, rfl, hcode⟩, ⟨_, hitem, rfl, hown⟩, fun stays => ?_⟩
  exact List.not_mem_nil (stays _ hroot _ hcode _ hitem hown List.mem_cons_self)

end WidgetTemplates.Compile
