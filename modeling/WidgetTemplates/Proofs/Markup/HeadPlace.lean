import WidgetTemplates.Markup.Adoption
import WidgetTemplates.Proofs.Markup.Growth

/-!
# The place of the head during construction

Once the root element and the head are placed, no step of the construction moves them (`Placed`). Only two operations
take nodes away: a frame set that replaces the body, and the settling of misnested formatting, which moves a special
element out of a formatting element that is open around it. The latter is why the order of the open elements matters:
of the nodes in question, those that are open are open around all others, and a formatting element is none of them.

Late head content is the exception: for its time the head is opened once more, innermost. So the order is stated for the
open elements without the one that is opened for a time.
-/

namespace WidgetTemplates.Markup

namespace Build

variable {α β γ : Type} {I : Builder → Prop}

/-! ## What a step keeps -/

/-- The step keeps a property of the construction. Instances follow the text of a rule. -/
class Keeps (I : Builder → Prop) (m : Build α) : Prop where
  keeps : ∀ b, I b → I (m b).2

/-- A property that stays when the nodes grow and nothing else changes. -/
class Robust (I : Builder → Prop) : Prop where
  grow : ∀ (b : Builder) (a : Arena), b.arena.Grows a → I b → I { b with arena := a }

/-- The step keeps a property of the construction, and what it yields has another property. -/
def Yields (I : Builder → Prop) (Q : α → Prop) (m : Build α) : Prop := ∀ b, I b → Q (m b).1 ∧ I (m b).2

namespace Yields

variable {Q : α → Prop} {R : β → Prop}

theorem keeps {m : Build α} (h : Yields I Q m) : Keeps I m := ⟨fun b hb => (h b hb).2⟩

theorem pure {x : α} (h : Q x) : Yields I Q (pure x) := fun _ hb => ⟨h, hb⟩

/-- What is read is a state that has the property. -/
theorem get : Yields I I (MonadState.get : Build Builder) := fun _ h => ⟨h, h⟩

/-- Where the first step yields what the second one needs, both yield what that yields. -/
theorem bind {m : Build α} {f : α → Build β} (h : Yields I Q m) (h' : ∀ x, Q x → Yields I R (f x)) :
    Yields I R (m >>= f) :=
  fun b hb => h' (m b).1 (h b hb).1 (m b).2 (h b hb).2

/-- A step that uses what the first one yields keeps the property. -/
theorem keeps_bind {m : Build α} {f : α → Build β} (h : Yields I Q m) (h' : ∀ x, Q x → Keeps I (f x)) :
    Keeps I (m >>= f) :=
  ⟨fun b hb => (h' (m b).1 (h b hb).1).keeps (m b).2 (h b hb).2⟩

/-- A fold whose steps yield what they use yields it. -/
theorem foldlM {f : α → γ → Build α} (h : ∀ x y, Q x → Yields I Q (f x y)) {x : α} (hx : Q x)
    (l : List γ) : Yields I Q (l.foldlM f x) := by
  induction l generalizing x with
  | nil => exact pure hx
  | cons y l ih => exact (h x y hx).bind fun _ hx => ih hx

end Yields

namespace Keeps

/-- Two steps in a row keep a property that each of them keeps. -/
theorem bind {m : Build α} {f : α → Build β} (h : Keeps I m) (h' : ∀ x, Keeps I (f x)) : Keeps I (m >>= f) :=
  ⟨fun b hb => (h' (m b).1).keeps (m b).2 (h.keeps b hb)⟩

/-- A choice keeps what both branches keep. -/
theorem ite {c : Prop} [Decidable c] {m m' : Build α} (h : Keeps I m) (h' : Keeps I m') :
    Keeps I (if c then m else m') := by
  split
  · exact h
  · exact h'

/-- A step that only looks. -/
theorem look {m : Build α} (h : ∀ b, (m b).2 = b) : Keeps I m := ⟨fun b hb => (h b).symm ▸ hb⟩

instance (x : α) : Keeps I (pure x : Build α) := look fun _ => rfl

instance : Keeps I (get : Build Builder) := look fun _ => rfl

instance : Keeps I done := look fun _ => rfl

instance {m : Build α} {f : α → Build β} [h : Keeps I m] [h' : ∀ x, Keeps I (f x)] : Keeps I (m >>= f) :=
  h.bind h'

instance {c : Prop} [Decidable c] {m m' : Build α} [h : Keeps I m] [h' : Keeps I m'] :
    Keeps I (if c then m else m') := h.ite h'

instance forM {f : α → Build PUnit} [h : ∀ x, Keeps I (f x)] (l : List α) : Keeps I (l.forM f) := by
  induction l with
  | nil => exact inferInstanceAs (Keeps I (pure _))
  | cons x l ih => exact (h x).bind fun _ => ih

instance : Keeps I current? := look fun _ => rfl

instance (test : Name → Bool) : Keeps I (currentIs test) := look fun _ => rfl

instance (tags : List String) : Keeps I (currentIn tags) := look fun _ => rfl

instance (tag : String) : Keeps I (isOpen tag) := look fun _ => rfl

instance (boundary : Boundary) (test : Nat → Bool) : Keeps I (inScope boundary test) := look fun _ => rfl

instance (boundary : Boundary) (tags : List String) : Keeps I (hasInScope boundary tags) := look fun _ => rfl

instance : Keeps I root := look fun _ => rfl

instance (target : Nat) : Keeps I (spotFor target) := by
  rw [spotFor]
  infer_instance

instance : Keeps I spot := by
  rw [spot]
  infer_instance

/-! ## Steps that only add nodes -/

section Robust

variable [Robust I]

/-- An edit that lets the nodes grow keeps a robust property. -/
theorem edit {f : Arena → Arena} (h : ∀ a : Arena, a.Grows (f a)) : Keeps I (edit f) :=
  ⟨fun b hb => Robust.grow b _ (h b.arena) hb⟩

instance (kind : Kind) : Keeps I (create kind) := ⟨fun b hb => Robust.grow b _ (.create b.arena kind) hb⟩

instance (spot : Spot) (node : Nat) : Keeps I (place spot node) := by
  refine edit fun a => ?_
  rcases spot with parent | ⟨table, around⟩
  · exact .append a parent node
  dsimp only
  split
  · exact .insertBefore a _ _ _
  · exact .append a _ _

instance (c : Char) : Keeps I (insertChar c) := by
  refine bind inferInstance fun spot => edit fun a => ?_
  rcases spot with parent | ⟨table, around⟩
  · exact .appendChar a parent c
  dsimp only
  split
  · exact .insertCharBefore a _ _ _
  · exact .appendChar a _ _

instance : Keeps I insertComment := by
  rw [insertComment]
  infer_instance

instance (parent : Nat) : Keeps I (appendComment parent) :=
  bind inferInstance fun node => edit fun a => .append a parent node

instance (i : Nat) (attrs : List (String × String)) : Keeps I (Build.edit fun a => a.addMissingAttrs i attrs) :=
  edit fun a => .addMissingAttrs a i attrs

end Robust

end Keeps

/-! ## Placed nodes -/

/-- The open elements without the one that is opened for a time. -/
def lasting : Option Nat → List Nat → List Nat
  | none, opens => opens
  | some node, opens => opens.erase node

/-- With fewer open elements fewer of them last. -/
theorem lasting_sublist {e : Option Nat} {opens opens' : List Nat} (h : opens'.Sublist opens) :
    (lasting e opens').Sublist (lasting e opens) := by
  cases e
  · exact h
  · exact h.erase _

/-- An element that is not opened for a time lasts. -/
theorem lasting_cons {e : Option Nat} {node : Nat} (h : e ≠ some node) (opens : List Nat) :
    lasting e (node :: opens) = node :: lasting e opens := by
  rcases e with _ | n
  · rfl
  · exact List.erase_cons_tail (by simpa using fun heq => h (congrArg some heq.symm))

/-- A node that is none of the document, the root element `r` and the head `hd`. -/
abbrev IsOther (r hd node : Nat) : Prop := node ∉ [0, r, hd]

/-- What is open around one of the three is one of the three. The innermost element comes first. -/
def Ordered (r hd : Nat) (opens : List Nat) : Prop := opens.Pairwise fun i j => i ∈ [0, r, hd] → j ∈ [0, r, hd]

namespace Ordered

variable {r hd node : Nat} {opens opens' inner outer : List Nat}

/-- The order among the open elements stays when some are closed. -/
theorem sublist (h : Ordered r hd opens) (hsublist : opens'.Sublist opens) : Ordered r hd opens' :=
  List.Pairwise.sublist hsublist h

/-- Whatever else is opened inside, the order stays. -/
theorem append_of_isOther (hinner : ∀ i ∈ inner, IsOther r hd i) (houter : Ordered r hd outer) :
    Ordered r hd (inner ++ outer) := by
  induction inner with
  | nil => exact houter
  | cons i inner ih =>
    obtain ⟨hi, hinner⟩ := List.forall_mem_cons.mp hinner
    exact List.pairwise_cons.mpr ⟨fun _ _ hmem => absurd hmem hi, ih hinner⟩

/-- What is open inside an element that is none of the three is none of them either. -/
theorem isOther_of_inside (h : Ordered r hd (inner ++ node :: outer)) (hnode : IsOther r hd node) :
    ∀ i ∈ inner, IsOther r hd i :=
  fun i hi hmem => hnode ((List.pairwise_append.mp h).2.2 i hi node List.mem_cons_self hmem)

end Ordered

/-- No formatting element is one of the three. -/
def FormattingApart (r hd : Nat) (fs : List Formatting) : Prop :=
  ∀ node tag, .element node tag ∈ fs → IsOther r hd node

/-- One more formatting element that is another node keeps them apart. -/
theorem FormattingApart.cons {r hd node : Nat} {fs : List Formatting} (h : FormattingApart r hd fs)
    (hnode : IsOther r hd node) (tag : Tag) : FormattingApart r hd (.element node tag :: fs) := by
  intro n t hmem
  rcases List.mem_cons.mp hmem with heq | hmem
  · cases heq
    exact hnode
  · exact h n t hmem

/-- The root element `r` and the head `hd` are placed. Of the document and these two, those that last among the open
elements are open around all others; only one of them is opened for a time; and a formatting element is none of them. -/
structure Placed (r hd : Nat) (e : Option Nat) (b : Builder) : Prop where
  headed : b.arena.Headed r hd
  order : Ordered r hd (lasting e b.opens)
  brief : ∀ node, e = some node → node ∈ [0, r, hd]
  formatting : FormattingApart r hd b.formatting

variable {r hd : Nat} {e : Option Nat}

namespace Placed

variable {b b' : Builder}

/-- The other marks of the construction do not matter. -/
theorem congr (h : Placed r hd e b) (arena : b'.arena = b.arena) (opens : b'.opens = b.opens)
    (formatting : b'.formatting = b.formatting) : Placed r hd e b' :=
  ⟨arena ▸ h.headed, opens ▸ h.order, h.brief, formatting ▸ h.formatting⟩

/-- A change that lets the nodes grow, closes elements and forgets formatting elements. -/
theorem settle (h : Placed r hd e b) (arena : b.arena.Grows b'.arena) (opens : b'.opens.Sublist b.opens)
    (formatting : ∀ node tag, .element node tag ∈ b'.formatting → .element node tag ∈ b.formatting) :
    Placed r hd e b' :=
  ⟨h.headed.grows arena, h.order.sublist (lasting_sublist opens), h.brief,
    fun node tag hmem => h.formatting node tag (formatting node tag hmem)⟩

instance : Robust (Placed r hd e) := ⟨fun _ _ hgrows h => h.settle hgrows (.refl _) fun _ _ => id⟩

/-- Opening another node keeps the two placed. -/
theorem push (h : Placed r hd e b) {node : Nat} (hnode : IsOther r hd node) :
    Placed r hd e { b with opens := node :: b.opens } := by
  refine ⟨h.headed, ?_, h.brief, h.formatting⟩
  rw [lasting_cons fun heq => hnode (h.brief node heq)]
  exact Ordered.append_of_isOther (List.forall_mem_singleton.mpr hnode) h.order

end Placed

/-! ## Steps that close and mark -/

namespace Keeps

/-- They stay placed in a step that lets the nodes grow, opens nothing and enters no formatting element. -/
theorem settle {f : Builder → Builder} (arena : ∀ b : Builder, b.arena.Grows (f b).arena)
    (opens : ∀ b, (f b).opens.Sublist b.opens)
    (formatting : ∀ (b : Builder) node tag,
      .element node tag ∈ (f b).formatting → .element node tag ∈ b.formatting) :
    Keeps (Placed r hd e) (modify f) :=
  ⟨fun b hb => hb.settle (arena b) (opens b) (formatting b)⟩

/-- Closing elements keeps the two placed. -/
theorem close {f : Builder → List Nat} (h : ∀ b, (f b).Sublist b.opens) :
    Keeps (Placed r hd e) (modify fun b => { b with opens := f b }) :=
  settle (fun _ => .refl _) h fun _ _ _ => id

/-- The formatting elements may change to others that are none of the three. -/
theorem setFormatting {fs : Builder → List Formatting}
    (h : ∀ b, Placed r hd e b → FormattingApart r hd (fs b)) :
    Keeps (Placed r hd e) (modify fun b => { b with formatting := fs b }) :=
  ⟨fun b hb => ⟨hb.headed, hb.order, hb.brief, h b hb⟩⟩

/-- Anything but the nodes, the open elements and the formatting elements may change. -/
instance (mode savedMode : Builder → Mode) (templateModes : Builder → List Mode) (head form : Builder → Option Nat)
    (framesetOk outdated fostering skipNewline : Builder → Bool) (tableText : Builder → List Char)
    (content : Builder → Option Content) :
    Keeps (Placed r hd e) (modify fun b =>
      { mode := mode b, savedMode := savedMode b, templateModes := templateModes b, head := head b, form := form b,
        framesetOk := framesetOk b, outdated := outdated b, fostering := fostering b, skipNewline := skipNewline b,
        tableText := tableText b, content := content b, arena := b.arena, opens := b.opens,
        formatting := b.formatting }) :=
  settle (fun _ => .refl _) (fun _ => .refl _) fun _ _ _ => id

instance (mode : Mode) : Keeps (Placed r hd e) (setMode mode) := by
  rw [setMode]
  infer_instance

instance (mode : Mode) : Keeps (Placed r hd e) (retry mode) := by
  rw [retry]
  infer_instance

instance : Keeps (Placed r hd e) forbidFrameset := by
  rw [forbidFrameset]
  infer_instance

instance : Keeps (Placed r hd e) resetMode := by
  rw [resetMode]
  infer_instance

instance : Keeps (Placed r hd e) pop := close fun _ => List.drop_sublist _ _

instance (tags : List String) : Keeps (Placed r hd e) (popThrough tags) :=
  close fun _ => (List.drop_sublist _ _).trans (List.dropWhile_sublist _)

instance (tags : List String) : Keeps (Placed r hd e) (popUntil tags) := close fun _ => List.dropWhile_sublist _

instance (tags : List String) : Keeps (Placed r hd e) (impliedEnd tags) := close fun _ => List.dropWhile_sublist _

instance (tag : String) : Keeps (Placed r hd e) (impliedEndExcept tag) := close fun _ => List.dropWhile_sublist _

instance (node : Nat) : Keeps (Placed r hd e) (unopen node) := close fun _ => List.erase_sublist

instance : Keeps (Placed r hd e) closeParagraph := by
  rw [closeParagraph]
  infer_instance

instance : Keeps (Placed r hd e) closeOpenParagraph := by
  rw [closeOpenParagraph]
  infer_instance

instance : Keeps (Placed r hd e) clearFormatting :=
  setFormatting fun _ hb node tag hmem =>
    hb.formatting node tag (((List.drop_sublist _ _).trans (List.dropWhile_sublist _)).subset hmem)

instance : Keeps (Placed r hd e) pushMarker :=
  setFormatting fun _ hb node tag hmem =>
    hb.formatting node tag ((List.mem_cons.mp hmem).resolve_left Formatting.noConfusion)

instance (node : Nat) : Keeps (Placed r hd e) (unformat node) :=
  setFormatting fun _ hb node tag hmem => hb.formatting node tag ((List.mem_filter.mp hmem).1)

end Keeps

/-! ## Steps that insert -/

namespace Yields

/-- A new node is none of the three. -/
theorem create (kind : Kind) : Yields (Placed r hd e) (IsOther r hd) (create kind) :=
  fun b hb => ⟨hb.headed.size_notMem, Keeps.keeps b hb⟩

/-- A new element is another node. -/
theorem createElement (name : Name) (attrs : List (String × String)) :
    Yields (Placed r hd e) (IsOther r hd) (createElement name attrs) := by
  rw [Build.createElement]
  split
  · exact (create _).bind fun _ _ => create _
  · exact create _

/-- An element that is inserted by name is another node. -/
theorem insertNamed (name : Name) (attrs : List (String × String)) :
    Yields (Placed r hd e) (IsOther r hd) (insertNamed name attrs) := by
  refine (createElement name attrs).bind fun node hnode b hb => ⟨hnode, ?_⟩
  have hplaced : Keeps (Placed r hd e) (spot >>= fun spot => place spot node) := inferInstance
  exact hplaced.keeps b hb

/-- An element that is inserted for a tag is another node. -/
theorem insert (tag : Tag) : Yields (Placed r hd e) (IsOther r hd) (insert tag) :=
  (insertNamed _ _).bind fun _ hnode _ hb => ⟨hnode, hb.push hnode⟩

end Yields

namespace Keeps

/-- Opening another node is a step that keeps the two placed. -/
theorem push {node : Nat} (h : IsOther r hd node) : Keeps (Placed r hd e) (push node) := ⟨fun _ hb => hb.push h⟩

instance (name : Name) (attrs : List (String × String)) : Keeps (Placed r hd e) (insertNamed name attrs) :=
  (Yields.insertNamed name attrs).keeps

instance (tag : Tag) : Keeps (Placed r hd e) (insert tag) := (Yields.insert tag).keeps

instance (name : String) : Keeps (Placed r hd e) (insertBare name) := (Yields.insert _).keeps

instance (tag : Tag) : Keeps (Placed r hd e) (insertVoid tag) := (Yields.insertNamed _ _).keeps

instance (attrs : List (String × String)) : Keeps (Placed r hd e) (createRoot attrs) :=
  (Yields.createElement _ _).keeps_bind fun node hnode => (push hnode).bind fun _ => edit fun a => .append a 0 node

instance (tag : Tag) (kind : RawText) : Keeps (Placed r hd e) (insertRaw tag kind) := by
  rw [insertRaw]
  infer_instance

instance (tag : Tag) : Keeps (Placed r hd e) (insertFormatting tag) := by
  have hpush : Keeps (Placed r hd e) (insert tag >>= fun node =>
      modify fun b => { b with formatting := .element node tag :: b.formatting }) :=
    (Yields.insert tag).keeps_bind fun node hnode => setFormatting fun _ hb => hb.formatting.cons hnode tag
  refine bind inferInstance fun b => ?_
  dsimp only
  split
  · split
    · exact bind inferInstance fun _ => hpush
    · exact hpush
  · exact hpush

instance : Keeps (Placed r hd e) reconstruct := by
  refine Yields.get.keeps_bind fun b hb => ?_
  -- The entries that are opened again come from new nodes, the others from the state before.
  have hopened : Yields (Placed r hd e) (FormattingApart r hd)
      ((b.formatting.takeWhile fun f => !isSettled b f).reverse.foldlM (fun (done : List Formatting) f => do
        match f with
        | .marker => return done
        | .element _ tag => do
          let node ← insert tag
          return .element node tag :: done) []) := by
    refine Yields.foldlM (fun done f hdone => ?_) (fun _ _ hmem => absurd hmem List.not_mem_nil) _
    rcases f with _ | ⟨_, tag⟩
    · exact .pure hdone
    · exact (Yields.insert tag).bind fun node hnode => .pure (hdone.cons hnode tag)
  refine hopened.keeps_bind fun reopened hreopened => setFormatting fun _ _ n t hmem => ?_
  rcases List.mem_append.mp hmem with hmem | hmem
  · exact hreopened n t hmem
  · exact hb.formatting n t (List.mem_of_mem_drop hmem)

end Keeps

end Build

end WidgetTemplates.Markup
