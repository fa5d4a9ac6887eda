import WidgetTemplates.Markup.Arena

/-!
# What stays in a growing document

Nodes are created, filled with text, moved and given children, but nearly every operation on the table of nodes lets all
elements be what they are and leaves every child where it is (`Arena.Grows`). The two that take children away are
`detach` and `adopt`. The two places that matter at the end are those of the root element and of the head
(`Arena.Headed`): only taking one of them away, or giving all children of the document or of the root element to another
node, can undo them.
-/

namespace WidgetTemplates.Markup

/-- Whether a node is an ordinary element with this name that has its children in itself. -/
def Cell.IsElement (tag : String) (c : Cell) : Prop := ∃ attrs, c.kind = .element ⟨.html, tag⟩ attrs none

namespace Arena

variable {a a' a'' : Arena} {i j r hd : Nat} {f : Cell → Cell}

/-! ## Cells -/

/-- A change of one node is seen at this node only. -/
theorem cell_modify (a : Arena) (i j : Nat) (f : Cell → Cell) :
    cell (a.modify i f) j = a.cell j ∨ i = j ∧ cell (a.modify i f) j = f (a.cell j) := by
  rw [cell, cell, Array.getElem?_modify]
  by_cases hij : i = j
  · subst hij
    rcases h : a[i]? with _ | c <;> simp
  · exact .inl (by rw [if_neg hij])

/-- A node that is changed is changed. -/
theorem cell_modify_self (h : i < a.size) : cell (a.modify i f) i = f (a.cell i) := by
  rw [cell, cell, Array.getElem?_modify, if_pos rfl, Array.getElem?_eq_getElem h]
  rfl

/-- Beyond the nodes there is only the default. -/
theorem cell_of_size_le (h : a.size ≤ i) : a.cell i = default := by
  rw [cell, Array.getElem?_eq_none h, Option.getD_none]

/-- Creating a node changes none of those that are there. -/
theorem cell_create_of_lt (kind : Kind) (h : i < a.size) : cell (a.create kind) i = a.cell i := by
  rw [cell, cell, create, Array.getElem?_push_lt h, Array.getElem?_eq_getElem h]

/-- A node that is something is in the table. -/
theorem lt_size_of_isElement {tag : String} (h : (a.cell i).IsElement tag) : i < a.size := by
  refine Nat.lt_of_not_le fun hle => ?_
  obtain ⟨attrs, hkind⟩ := h
  rw [cell_of_size_le hle] at hkind
  exact nomatch hkind

/-- Only a node that is there has children. -/
theorem lt_size_of_mem_children {child : Nat} (h : child ∈ (a.cell i).children) : i < a.size := by
  refine Nat.lt_of_not_le fun hle => ?_
  rw [cell_of_size_le hle] at h
  exact absurd h (Array.not_mem_empty _)

/-- An element is one of some tags exactly if its own is among them. -/
theorem isOneOf_of_isElement {tag : String} {tags : List String} (h : (a.cell i).IsElement tag) :
    a.isOneOf tags i = tags.contains tag := by
  obtain ⟨attrs, hkind⟩ := h
  simp [isOneOf, name?, hkind]

/-! ## Growth -/

/-- No node is lost, elements stay what they are, and children stay where they are. -/
structure Grows (a a' : Arena) : Prop where
  size_le : a.size ≤ a'.size
  isElement : ∀ i tag, (a.cell i).IsElement tag → (a'.cell i).IsElement tag
  mem_children : ∀ i, ∀ child ∈ (a.cell i).children, child ∈ (a'.cell i).children

namespace Grows

theorem refl (a : Arena) : Grows a a := ⟨Nat.le_refl _, fun _ _ => id, fun _ _ => id⟩

theorem trans (h : Grows a a') (h' : Grows a' a'') : Grows a a'' :=
  ⟨Nat.le_trans h.size_le h'.size_le, fun i tag ht => h'.isElement i tag (h.isElement i tag ht),
    fun i child hc => h'.mem_children i child (h.mem_children i child hc)⟩

/-- Changing a node lets the nodes grow if that node keeps its kind and its children. -/
theorem modify (i : Nat) (kind : ∀ tag, (a.cell i).IsElement tag → (f (a.cell i)).IsElement tag)
    (children : ∀ child ∈ (a.cell i).children, child ∈ (f (a.cell i)).children) : Grows a (a.modify i f) := by
  refine ⟨Nat.le_of_eq Array.size_modify.symm, fun j => ?_, fun j => ?_⟩
  · rcases a.cell_modify i j f with h | ⟨rfl, h⟩ <;> rw [h]
    · exact fun _ => id
    · exact kind
  · rcases a.cell_modify i j f with h | ⟨rfl, h⟩ <;> rw [h]
    · exact fun _ => id
    · exact children

/-- A change of anything but the kind and the children. -/
theorem setParent (a : Arena) (i : Nat) (parent : Option Nat) :
    Grows a (a.modify i fun c => { c with parent }) :=
  modify i (fun _ h => h) fun _ h => h

/-- Creating a node lets the nodes grow. -/
theorem create (a : Arena) (kind : Kind) : Grows a (a.create kind) := by
  refine ⟨?_, fun i tag h => ?_, fun i child h => ?_⟩
  · rw [Arena.create, Array.size_push]
    exact Nat.le_succ _
  · rwa [cell_create_of_lt kind (lt_size_of_isElement h)]
  · rwa [cell_create_of_lt kind (lt_size_of_mem_children h)]

/-- Appending a child lets the nodes grow. -/
theorem append (a : Arena) (parent child : Nat) : Grows a (a.append parent child) :=
  (modify parent (fun _ h => h) fun _ h => Array.mem_push.mpr (.inl h)).trans (setParent _ _ _)

/-- Inserting a child at a position lets the nodes grow. -/
theorem insertAt (a : Arena) (parent index child : Nat) : Grows a (a.insertAt parent index child) := by
  refine (modify parent (fun _ h => h) fun other h => ?_).trans (setParent _ _ _)
  rw [← Array.mem_toList_iff, ← List.take_append_drop index (a.cell parent).children.toList, List.mem_append] at h
  simp only [List.mem_toArray, List.mem_append, List.mem_cons]
  exact h.imp_right .inr

/-- Inserting a child before another one lets the nodes grow. -/
theorem insertBefore (a : Arena) (parent sibling child : Nat) : Grows a (a.insertBefore parent sibling child) :=
  insertAt _ _ _ _

/-- Extending a text lets the nodes grow. -/
theorem of_extendText? {c : Char} (h : a.extendText? i c = some a') : Grows a a' := by
  rw [extendText?] at h
  split at h
  · next reversed hkind =>
    obtain rfl := Option.some.inj h
    refine modify i (fun tag ⟨attrs, hattrs⟩ => ?_) fun _ h => h
    exact nomatch hkind.symm.trans hattrs
  · exact nomatch h

/-- Appending a character lets the nodes grow. -/
theorem appendChar (a : Arena) (parent : Nat) (c : Char) : Grows a (a.appendChar parent c) := by
  rw [Arena.appendChar]
  split
  · next a' h =>
    obtain ⟨last, -, h⟩ := Option.bind_eq_some_iff.mp h
    exact of_extendText? h
  · exact (create _ _).trans (append _ _ _)

/-- Inserting a character before a node lets the nodes grow. -/
theorem insertCharBefore (a : Arena) (parent sibling : Nat) (c : Char) :
    Grows a (a.insertCharBefore parent sibling c) := by
  rw [Arena.insertCharBefore]
  split
  · next a' h =>
    obtain ⟨last, -, h⟩ := Option.bind_eq_some_iff.mp h
    exact of_extendText? h
  · exact (create _ _).trans (insertAt _ _ _ _)

/-- Adding attributes lets the nodes grow. -/
theorem addMissingAttrs (a : Arena) (i : Nat) (attrs : List (String × String)) :
    Grows a (a.addMissingAttrs i attrs) := by
  refine modify i (fun tag ⟨old, hold⟩ => ?_) fun child h => ?_
  · rw [hold]
    exact ⟨_, rfl⟩
  · split <;> exact h

end Grows

/-- A node of the table gets the child that it is given. -/
theorem mem_children_append {parent : Nat} (h : parent < a.size) (child : Nat) :
    child ∈ (cell (a.append parent child) parent).children := by
  refine (Grows.setParent _ child (some parent)).mem_children parent child ?_
  rw [cell_modify_self h]
  exact Array.mem_push_self

/-- A new node is what it is created as. -/
theorem cell_create_size (kind : Kind) : (cell (a.create kind) a.size).kind = kind := by
  rw [cell, create, Array.getElem?_push_size]
  rfl

/-! ## The root element and the head -/

/-- The node `r` is an `html` element at the top, and the node `hd` is a `head` element in it. -/
structure Headed (r hd : Nat) (a : Arena) : Prop where
  root_mem : r ∈ (a.cell 0).children
  head_mem : hd ∈ (a.cell r).children
  root : (a.cell r).IsElement "html"
  head : (a.cell hd).IsElement "head"

namespace Headed

/-- Root element and head stay in place while the nodes grow. -/
theorem grows (h : Headed r hd a) (hgrows : Grows a a') : Headed r hd a' :=
  ⟨hgrows.mem_children 0 r h.root_mem, hgrows.mem_children r hd h.head_mem, hgrows.isElement r _ h.root,
    hgrows.isElement hd _ h.head⟩

/-- A node that is to come is none of the nodes in question. -/
theorem size_notMem (h : Headed r hd a) : a.size ∉ [0, r, hd] := by
  have h0 := lt_size_of_mem_children h.root_mem
  have hr := lt_size_of_isElement h.root
  have hhd := lt_size_of_isElement h.head
  simp only [List.mem_cons, List.not_mem_nil, or_false]
  omega

/-- A change that keeps elements, and above and in the root element the children in question. -/
theorem modify (h : Headed r hd a) (i : Nat) (kind : ∀ c tag, c.IsElement tag → (f c).IsElement tag)
    (children : i = 0 ∨ i = r → ∀ c, ∀ n ∈ [r, hd], n ∈ c.children → n ∈ (f c).children) :
    Headed r hd (a.modify i f) := by
  have helement : ∀ j tag, (a.cell j).IsElement tag → (cell (a.modify i f) j).IsElement tag := by
    intro j tag hj
    rcases a.cell_modify i j f with heq | ⟨rfl, heq⟩ <;> rw [heq]
    · exact hj
    · exact kind _ _ hj
  have hchild : ∀ j, j = 0 ∨ j = r → ∀ n ∈ [r, hd], n ∈ (a.cell j).children →
      n ∈ (cell (a.modify i f) j).children := by
    intro j hj n hn hmem
    rcases a.cell_modify i j f with heq | ⟨rfl, heq⟩ <;> rw [heq]
    · exact hmem
    · exact children hj _ n hn hmem
  exact ⟨hchild 0 (.inl rfl) r (by simp) h.root_mem, hchild r (.inr rfl) hd (by simp) h.head_mem,
    helement r _ h.root, helement hd _ h.head⟩

/-- Any other node may be taken away. -/
theorem detach (h : Headed r hd a) {child : Nat} (hchild : child ∉ [r, hd]) : Headed r hd (a.detach child) := by
  rw [Arena.detach]
  split
  · exact h
  refine grows ?_ (Grows.setParent _ _ _)
  refine h.modify _ (fun _ _ h => h) fun _ c n hn hmem => ?_
  have hne : n ≠ child := by
    rintro rfl
    exact hchild hn
  exact Array.mem_filter.mpr ⟨hmem, bne_iff_ne.mpr hne⟩

/-- The children of any other node may be given away. -/
theorem adopt (h : Headed r hd a) {source : Nat} (hsource : source ∉ [0, r, hd]) (target : Nat) :
    Headed r hd (a.adopt source target) := by
  have hparents : ∀ (moved : List Nat) {a : Arena}, Headed r hd a →
      Headed r hd (moved.foldl (fun a i => a.modify i fun c => { c with parent := some target }) a) := by
    intro moved
    induction moved with
    | nil => exact id
    | cons i moved ih => exact fun h => ih (h.grows (.setParent _ _ _))
  have hleft : Headed r hd (a.modify source fun c => { c with children := #[] }) := by
    refine h.modify _ (fun _ _ h => h) fun hsource' => absurd ?_ hsource
    rcases hsource' with rfl | rfl <;> simp
  have hgiven (moved : Array Nat) : Headed r hd ((a.modify source fun c => { c with children := #[] }).modify target
      fun c => { c with children := c.children ++ moved }) :=
    hleft.grows (.modify _ (fun _ h => h) fun _ hmem => Array.mem_append.mpr (.inl hmem))
  rw [Arena.adopt, ← Array.foldl_toList]
  exact hparents _ (hgiven _)

end Headed

end Arena

end WidgetTemplates.Markup
