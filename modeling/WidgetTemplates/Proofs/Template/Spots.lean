import Mathlib.Data.List.Nodup
import Mathlib.Data.List.Pairwise
import WidgetTemplates.Proofs.Template.Tidy

/-!
# Spots in a template

A spot is a node of a forest with its address and with the addresses of the loops around it. Two loops can look the
same, and weaving changes what stands in them, but a loop keeps its address. So the loops around a spot of one forest
can be compared with those around a spot of another.

Loops on top of each other have addresses of different lengths, so no loop is listed twice (`nodup_loops`), and a spot
is in all loops that its surroundings are in (`suffix_loops`). When all expression texts of a forest are distinct, a
text tells its spot (`eq_of_mem_texts`).
-/

namespace WidgetTemplates.Template

open Script (Expr Stmt)

/-- A node of a forest and where it stands. Its address says which child it is, which one its parent is, and so on to
the outside; the addresses of the loops around it stand innermost first. -/
structure Spot where
  node : Node
  address : List Nat
  loops : List (List Nat)

mutual

/-- The spots of a tree in document order, the tree standing at an address in some loops. -/
def Node.spots (loops : List (List Nat)) (address : List Nat) : Node → List Spot
  | .element el children => ⟨.element el children, address, loops⟩ :: spotsAll loops address 0 children
  | .loop item source body location =>
    ⟨.loop item source body location, address, loops⟩ :: spotsAll (address :: loops) address 0 body
  | node => [⟨node, address, loops⟩]

/-- The spots of a forest in document order, the forest being the children of what stands at an address, from the
child `i` on. -/
def spotsAll (loops : List (List Nat)) (address : List Nat) (i : Nat) : List Node → List Spot
  | [] => []
  | node :: rest => node.spots loops (i :: address) ++ spotsAll loops address (i + 1) rest

end

mutual

/-- The spots of the elements of a tree outside those that satisfy `opens`. -/
def Node.looseSpots (opens : Element → Bool) (loops : List (List Nat)) (address : List Nat) : Node → List Spot
  | .element el children =>
    if opens el then []
    else ⟨.element el children, address, loops⟩ :: looseSpotsAll opens loops address 0 children
  | .loop _ _ body _ => looseSpotsAll opens (address :: loops) address 0 body
  | _ => []

/-- The spots of the elements of a forest outside those that satisfy `opens`. -/
def looseSpotsAll (opens : Element → Bool) (loops : List (List Nat)) (address : List Nat) (i : Nat) :
    List Node → List Spot
  | [] => []
  | node :: rest => node.looseSpots opens loops (i :: address) ++ looseSpotsAll opens loops address (i + 1) rest

end

/-- The loop at a spot, with its address. -/
def Spot.loop? (q : Spot) : Option (List Nat × String × Expr × Location) :=
  match q.node with
  | .loop item source _ location => some (q.address, item, source, location)
  | _ => none

/-- The loops of a forest in document order. -/
def loopsAll (loops : List (List Nat)) (address : List Nat) (i : Nat) (nodes : List Node) :
    List (List Nat × String × Expr × Location) :=
  (spotsAll loops address i nodes).filterMap Spot.loop?

section Spots

variable {loops : List (List Nat)} {address : List Nat} {i : Nat} {q : Spot}

/-- The spots of a forest that starts with an element. -/
theorem spotsAll_element {el : Element} {children rest : List Node} :
    spotsAll loops address i (.element el children :: rest) = ⟨.element el children, i :: address, loops⟩ ::
      (spotsAll loops (i :: address) 0 children ++ spotsAll loops address (i + 1) rest) :=
  rfl

/-- The spots of a forest that starts with a loop. -/
theorem spotsAll_loop {item : String} {source : Expr} {body rest : List Node} {location : Location} :
    spotsAll loops address i (.loop item source body location :: rest) =
      ⟨.loop item source body location, i :: address, loops⟩ ::
        (spotsAll ((i :: address) :: loops) (i :: address) 0 body ++ spotsAll loops address (i + 1) rest) :=
  rfl

/-- A spot of a forest that starts with an element is that of the element, one inside it or one behind it. -/
theorem mem_spotsAll_element {el : Element} {children rest : List Node} :
    q ∈ spotsAll loops address i (.element el children :: rest) ↔
      q = ⟨.element el children, i :: address, loops⟩ ∨ q ∈ spotsAll loops (i :: address) 0 children ∨
        q ∈ spotsAll loops address (i + 1) rest := by
  rw [spotsAll_element, List.mem_cons, List.mem_append]

/-- A spot of a forest that starts with a loop is that of the loop, one inside it or one behind it. -/
theorem mem_spotsAll_loop {item : String} {source : Expr} {body rest : List Node} {location : Location} :
    q ∈ spotsAll loops address i (.loop item source body location :: rest) ↔
      q = ⟨.loop item source body location, i :: address, loops⟩ ∨
        q ∈ spotsAll ((i :: address) :: loops) (i :: address) 0 body ∨ q ∈ spotsAll loops address (i + 1) rest := by
  rw [spotsAll_loop, List.mem_cons, List.mem_append]

/-- The spots of two forests in a row. -/
theorem spotsAll_append (nodes more : List Node) :
    spotsAll loops address i (nodes ++ more) =
      spotsAll loops address i nodes ++ spotsAll loops address (i + nodes.length) more := by
  induction nodes generalizing i with
  | nil => rfl
  | cons node rest ih =>
    rw [List.cons_append, spotsAll, ih, spotsAll, List.append_assoc, List.length_cons, Nat.add_right_comm,
      Nat.add_assoc i]

/-- Generated statements stand right where they are listed. -/
theorem of_mem_spotsAll_statements {stmts : List Stmt} (h : q ∈ spotsAll loops address i (stmts.map .code)) :
    q.loops = loops ∧ ∃ stmt ∈ stmts, q.node = .code stmt := by
  induction stmts generalizing i with
  | nil => cases h
  | cons stmt rest ih =>
    rcases List.mem_cons.mp h with rfl | h
    · exact ⟨rfl, stmt, List.mem_cons_self, rfl⟩
    · obtain ⟨hloops, stmt', hstmt, hnode⟩ := ih h
      exact ⟨hloops, stmt', List.mem_cons_of_mem _ hstmt, hnode⟩

variable (loops address i) in
/-- A forest has a spot for each of its nodes. -/
theorem map_node_spotsAll (above nodes : List Node) :
    (spotsAll loops address i nodes).map Spot.node = (occurrencesAll above nodes).map Occurrence.node := by
  induction nodes using forestInduction generalizing loops address i above with
  | nil => rfl
  | element el children rest inside after =>
    rw [spotsAll_element, occurrencesAll, Node.occurrences, List.cons_append, List.map_cons, List.map_cons,
      List.map_append, List.map_append, inside _ _ _ (.element el children :: above), after _ _ _ above]
  | loop item source body location rest inside after =>
    rw [spotsAll_loop, occurrencesAll, Node.occurrences, List.cons_append, List.map_cons, List.map_cons,
      List.map_append, List.map_append, inside _ _ _ (.loop item source body location :: above), after _ _ _ above]
  | _ =>
    rename_i after
    exact congrArg (List.cons _) (after _ _ _ above)

/-! ## The loops around a spot -/

/-- A spot is in all loops that the forest is in. -/
theorem suffix_loops {nodes : List Node} (h : q ∈ spotsAll loops address i nodes) : loops <:+ q.loops := by
  induction nodes using forestInduction generalizing loops address i with
  | nil => cases h
  | element el children rest inside after =>
    rcases mem_spotsAll_element.mp h with rfl | h | h
    · exact List.suffix_rfl
    · exact inside h
    · exact after h
  | loop item source body location rest inside after =>
    rcases mem_spotsAll_loop.mp h with rfl | h | h
    · exact List.suffix_rfl
    · exact (List.suffix_cons _ _).trans (inside h)
    · exact after h
  | _ =>
    rename_i after
    rcases List.mem_cons.mp h with rfl | h
    · exact List.suffix_rfl
    · exact after h

/-- The loops around a spot are distinct: each has a longer address than those around it. -/
theorem nodup_loops {nodes : List Node} (distinct : loops.Nodup) (around : ∀ l ∈ loops, l.length ≤ address.length)
    (h : q ∈ spotsAll loops address i nodes) : q.loops.Nodup := by
  induction nodes using forestInduction generalizing loops address i with
  | nil => cases h
  | element el children rest inside after =>
    rcases mem_spotsAll_element.mp h with rfl | h | h
    · exact distinct
    · have hchild : ∀ l ∈ loops, l.length ≤ (i :: address).length := fun l hl => Nat.le_succ_of_le (around l hl)
      exact inside distinct hchild h
    · exact after distinct around h
  | loop item source body location rest inside after =>
    rcases mem_spotsAll_loop.mp h with rfl | h | h
    · exact distinct
    · refine inside (List.nodup_cons.mpr ⟨fun hmem => ?_, distinct⟩) ?_ h
      · exact absurd (around _ hmem) (Nat.not_succ_le_self _)
      · exact List.forall_mem_cons.mpr ⟨Nat.le_refl _, fun l hl => Nat.le_succ_of_le (around l hl)⟩
    · exact after distinct around h
  | _ =>
    rename_i after
    rcases List.mem_cons.mp h with rfl | h
    · exact distinct
    · exact after distinct around h

/-- The children of an element of a forest have their spots there. -/
theorem subset_spotsAll {nodes children : List Node} {el : Element} (h : q ∈ spotsAll loops address i nodes)
    (node : q.node = .element el children) :
    spotsAll q.loops q.address 0 children ⊆ spotsAll loops address i nodes := by
  induction nodes using forestInduction generalizing loops address i with
  | nil => cases h
  | element el' children' rest inside after =>
    rcases mem_spotsAll_element.mp h with rfl | h | h
    · obtain ⟨rfl, rfl⟩ := Node.element.inj node
      exact fun p hp => mem_spotsAll_element.mpr (.inr (.inl hp))
    · exact fun p hp => mem_spotsAll_element.mpr (.inr (.inl (inside h hp)))
    · exact fun p hp => mem_spotsAll_element.mpr (.inr (.inr (after h hp)))
  | loop item source body location rest inside after =>
    rcases mem_spotsAll_loop.mp h with rfl | h | h
    · cases node
    · exact fun p hp => mem_spotsAll_loop.mpr (.inr (.inl (inside h hp)))
    · exact fun p hp => mem_spotsAll_loop.mpr (.inr (.inr (after h hp)))
  | _ =>
    rename_i after
    rcases List.mem_cons.mp h with rfl | h
    · cases node
    · exact fun p hp => List.mem_cons_of_mem _ (after h hp)

/-- The loose spots are among all spots. -/
theorem looseSpotsAll_subset (opens : Element → Bool) (nodes : List Node) :
    looseSpotsAll opens loops address i nodes ⊆ spotsAll loops address i nodes := by
  induction nodes using forestInduction generalizing loops address i with
  | nil => exact List.Subset.refl _
  | element el children rest inside after =>
    intro p hp
    rw [mem_spotsAll_element]
    rcases List.mem_append.mp hp with hp | hp
    · rw [Node.looseSpots] at hp
      split at hp
      · cases hp
      · exact (List.mem_cons.mp hp).imp_right fun hp => .inl (inside hp)
    · exact .inr (.inr (after hp))
  | loop item source body location rest inside after =>
    intro p hp
    rw [mem_spotsAll_loop]
    exact .inr ((List.mem_append.mp hp).imp (inside ·) (after ·))
  | _ =>
    rename_i after
    exact fun p hp => List.mem_cons_of_mem _ (after hp)

/-! ## Which spot carries a text -/

variable (loops address i) in
/-- The texts at the spots of a forest are those of the forest. -/
theorem flatMap_texts_spotsAll (nodes : List Node) :
    ((spotsAll loops address i nodes).flatMap fun q => q.node.texts) = expressionTexts nodes := by
  have hnodes := congrArg (List.flatMap Node.texts) (map_node_spotsAll loops address i [] nodes)
  rwa [List.flatMap_map, List.flatMap_map] at hnodes

/-- The expression texts of a forest are those of its spots. -/
theorem mem_expressionTexts {nodes : List Node} {code : String} :
    code ∈ expressionTexts nodes ↔ ∃ q ∈ spotsAll loops address i nodes, code ∈ q.node.texts := by
  rw [← flatMap_texts_spotsAll loops address i, List.mem_flatMap]

/-- If the expression texts of a forest are distinct, a text tells its spot. -/
theorem eq_of_mem_texts {nodes : List Node} (distinct : (expressionTexts nodes).Nodup) {q q' : Spot}
    (hq : q ∈ spotsAll loops address i nodes) (hq' : q' ∈ spotsAll loops address i nodes) {code : String}
    (own : code ∈ q.node.texts) (own' : code ∈ q'.node.texts) : q = q' := by
  rw [← flatMap_texts_spotsAll loops address i] at distinct
  obtain ⟨-, hapart⟩ := List.nodup_flatMap.mp distinct
  have : Std.Symm (Function.onFun List.Disjoint fun q : Spot => q.node.texts) := ⟨fun _ _ h => List.disjoint_symm h⟩
  by_contra hne
  exact hapart.forall hq hq' hne own own'

end Spots

end WidgetTemplates.Template
