import WidgetTemplates.Markup.Document
import WidgetTemplates.Proofs.Markup.HeadPlace

/-!
# The head stays

The rules of all insertion modes keep a placed head where it is, and so does every token. Most rules only put together
steps that do, and their instances follow their texts. The others are those that take nodes away
(`Keeps.adoptOnce`, the rule for frame sets), those that go back to open elements or formatting elements that they have
read before, and the rule that opens the head once more (`Keeps.openedBriefly`).
-/

namespace WidgetTemplates.Markup.Build

set_option synthInstance.maxSize 4000

variable {α : Type} {I : Builder → Prop} {r hd : Nat} {e : Option Nat}

/-! ## Misnested formatting -/

/-- A list parts at an element into what comes before it and what comes after it. -/
theorem takeWhile_append_cons_dropWhile {l : List Nat} {x : Nat} (h : x ∈ l) :
    l.takeWhile (· != x) ++ x :: (l.dropWhile (· != x)).drop 1 = l := by
  induction l with
  | nil => exact absurd h List.not_mem_nil
  | cons y l ih =>
    by_cases hy : y = x
    · subst hy
      simp
    · have htail := ih ((List.mem_cons.mp h).resolve_left (Ne.symm hy))
      rw [List.drop_one] at htail
      simpa [hy] using htail

/-- What has been entered since the last marker has been entered. -/
theorem mem_of_mem_sinceMarker {fs : List Formatting} {node : Nat} {tag : Tag} (h : (node, tag) ∈ sinceMarker fs) :
    .element node tag ∈ fs := by
  obtain ⟨f, hf, heq⟩ := List.mem_filterMap.mp h
  rcases f with _ | ⟨n, t⟩
  · exact nomatch heq
  · cases heq
    exact (List.takeWhile_sublist _).subset hf

/-- Entering a clone that is another node keeps the formatting elements apart. -/
theorem FormattingApart.enter {fs : List Formatting} (h : FormattingApart r hd fs) {clone : Nat}
    (hclone : IsOther r hd clone) (tag : Tag) (old : Nat) (bookmark : Bookmark) :
    FormattingApart r hd (enter old (.element clone tag) bookmark fs) := by
  intro node t hmem
  have hcons := h.cons hclone tag
  rcases bookmark with _ | n
  · obtain ⟨f, hf, heq⟩ := List.mem_map.mp hmem
    refine hcons node t ?_
    rw [← heq]
    split
    · exact List.mem_cons_self
    · exact List.mem_cons_of_mem _ hf
  · obtain ⟨f, hf, hmem⟩ := List.mem_flatMap.mp (List.mem_filter.mp hmem).1
    refine hcons node t ?_
    split at hmem
    · rcases List.mem_cons.mp hmem with heq | hmem
      · exact heq ▸ List.mem_cons_self
      · exact List.mem_singleton.mp hmem ▸ List.mem_cons_of_mem _ hf
    · exact List.mem_singleton.mp hmem ▸ List.mem_cons_of_mem _ hf

/-- What has been cloned so far, and what the next clone encloses, is none of the three. -/
def Cloning.Apart (r hd : Nat) (c : Cloning) : Prop := IsOther r hd c.last ∧ ∀ node ∈ c.kept, IsOther r hd node

/-- The clones between the formatting element and the special one are other nodes. -/
theorem Yields.cloneBetween {c : Cloning} (h : c.Apart r hd) (block node : Nat) :
    Yields (Placed r hd e) (Cloning.Apart r hd) (cloneBetween block c node) := by
  refine Yields.get.bind fun b hb => ?_
  dsimp only
  split
  · exact fun b hb => ⟨h, Keeps.keeps b hb⟩
  split
  · exact .pure h
  next tag _ =>
  refine (Yields.createElement _ _).bind fun clone hclone => ?_
  have hforms : Keeps (Placed r hd e) (modify fun b => { b with
      formatting := b.formatting.map fun f => if isEntryOf node f then .element clone tag else f }) :=
    .setFormatting fun b hb => hb.formatting.enter hclone tag node .replace
  have hmoved : Keeps (Placed r hd e) (edit fun a => (a.detach c.last).append clone c.last) :=
    ⟨fun b hb => ⟨(hb.headed.detach (List.not_mem_of_not_mem_cons h.1)).grows (.append _ _ _), hb.order, hb.brief,
      hb.formatting⟩⟩
  exact fun b hb => ⟨⟨hclone, List.forall_mem_cons.mpr ⟨hclone, h.2⟩⟩, hmoved.keeps _ (hforms.keeps b hb)⟩

namespace Keeps

/-- The open elements may change to others in order. -/
theorem setOpens {opens : List Nat} (h : Ordered r hd opens) :
    Keeps (Placed r hd none) (modify fun b => { b with opens }) :=
  ⟨fun _ hb => ⟨hb.headed, h, hb.brief, hb.formatting⟩⟩

instance (name : String) : Keeps (Placed r hd e) (endOrdinary name) := by
  refine bind inferInstance fun b => ?_
  split
  · exact ite (bind inferInstance fun _ => close fun _ => (List.drop_sublist _ _).trans (List.dropWhile_sublist _))
      inferInstance
  · infer_instance

/-- The elements between the special element and the formatting element are other nodes, and so is the special element:
all of them are open inside the formatting element. -/
instance adoptOnce (name : String) : Keeps (Placed r hd none) (adoptOnce name) := by
  refine Yields.get.keeps_bind fun b hb => ?_
  split
  · infer_instance
  next subject tag hfound =>
  have hsubject : IsOther r hd subject :=
    hb.formatting _ _ (mem_of_mem_sinceMarker (List.mem_of_find?_eq_some hfound))
  split
  · infer_instance
  next hopen =>
  refine bind inferInstance fun _ => ite inferInstance ?_
  -- Only the order of the parts matters from here on, not how they were found.
  have hopens := takeWhile_append_cons_dropWhile (x := subject) (l := b.opens) (by simpa using hopen)
  generalize b.opens.takeWhile (· != subject) = inner at hopens ⊢
  generalize (b.opens.dropWhile (· != subject)).drop 1 = outer at hopens ⊢
  have horder : Ordered r hd (inner ++ subject :: outer) := hopens.symm ▸ hb.order
  have hinner := horder.isOther_of_inside hsubject
  have houter := horder.sublist ((List.sublist_cons_self subject outer).trans (List.sublist_append_right inner _))
  dsimp only
  split
  · exact (setOpens houter).bind inferInstance
  next block hblock =>
  -- The special element is open inside the formatting element, so it is neither the root element nor the head.
  have hblock := hinner block (List.mem_reverse.mp (List.mem_of_find?_eq_some hblock))
  have hcloned := Yields.foldlM (I := Placed r hd none) (fun c node hc => Yields.cloneBetween hc block node)
    (x := ⟨0, [], block, .replace⟩) ⟨hblock, List.forall_mem_nil _⟩ ((inner.dropWhile (· != block)).drop 1)
  refine hcloned.keeps_bind fun c hc => bind ?_ fun _ => bind inferInstance fun _ => bind inferInstance fun _ => ?_
  · exact ⟨fun b hb =>
      ⟨hb.headed.detach (List.not_mem_of_not_mem_cons hc.1), hb.order, hb.brief, hb.formatting⟩⟩
  refine (Yields.createElement _ _).keeps_bind fun clone hclone => bind ?_ fun _ => bind ?_ fun _ => inferInstance
  · exact ⟨fun b hb => ⟨(hb.headed.adopt hblock _).grows (.append _ _ _), hb.order, hb.brief, hb.formatting⟩⟩
  -- The clones are opened between what is inside the special element and what is outside the formatting element.
  refine ⟨fun b hb => ⟨hb.headed, ?_, hb.brief, hb.formatting.enter hclone tag _ _⟩⟩
  have hkept : ∀ i ∈ c.kept.reverse, IsOther r hd i := fun i hi => hc.2 i (List.mem_reverse.mp hi)
  have hinside : ∀ i ∈ inner.takeWhile (· != block) ++ clone :: block :: c.kept.reverse, IsOther r hd i :=
    List.forall_mem_append.mpr ⟨fun i hi => hinner i ((List.takeWhile_sublist _).subset hi),
      List.forall_mem_cons.mpr ⟨hclone, List.forall_mem_cons.mpr ⟨hblock, hkept⟩⟩⟩
  have hopened := houter.append_of_isOther hinside
  rwa [List.append_assoc] at hopened

instance (name : String) (n : Nat) : Keeps (Placed r hd none) (adoptRounds name n) := by
  induction n with
  | zero => exact inferInstanceAs (Keeps _ (pure _))
  | succ n ih =>
    rw [adoptRounds]
    infer_instance

instance (name : String) : Keeps (Placed r hd none) (endFormatting name) := by
  refine bind inferInstance fun b => ?_
  split <;> infer_instance

/-! ## Before the body -/

instance [Robust I] (tag : Tag) : Keeps I (extraHtml tag) := by
  dsimp only [extraHtml]
  infer_instance

instance : Keeps (Placed r hd e) endTemplate := by
  dsimp only [endTemplate]
  infer_instance

instance (t : Token) : Keeps (Placed r hd e) (initialRules t) := by
  dsimp only [initialRules]
  refine ite inferInstance ?_
  split <;> infer_instance

instance (t : Token) : Keeps (Placed r hd e) (beforeHtmlRules t) := by
  dsimp only [beforeHtmlRules]
  refine ite inferInstance ?_
  split <;> infer_instance

instance (t : Token) : Keeps (Placed r hd e) (beforeHeadRules t) := by
  have implied : Keeps (Placed r hd e) beforeHeadRules.implied := by
    dsimp only [beforeHeadRules.implied]
    infer_instance
  dsimp only [beforeHeadRules]
  refine ite inferInstance ?_
  split <;> infer_instance

instance (t : Token) : Keeps (Placed r hd e) (headRules t) := by
  have leave : Keeps (Placed r hd e) headRules.leave := by
    dsimp only [headRules.leave]
    infer_instance
  dsimp only [headRules]
  refine ite ?_ ?_
  · split <;> infer_instance
  · split <;> infer_instance

/-- Late head content goes into the head, which is open for its time only. -/
theorem openedBriefly {m : Build α} (h : ∀ e, Keeps (Placed r hd e) m) (node : Nat) :
    Keeps (Placed r hd none) (Build.push node >>= fun _ => m >>= fun x => unopen node >>= fun _ => pure x) := by
  by_cases hnode : IsOther r hd node
  · exact (push hnode).bind inferInstance
  · have hmem := Decidable.not_not.mp hnode
    refine ⟨fun b hb => ?_⟩
    -- The innermost of its places among the open elements is erased, so those that last are the same as before.
    have hopened : Placed r hd (some node) { b with opens := node :: b.opens } := by
      refine ⟨hb.headed, ?_, fun n hn => Option.some.inj hn ▸ hmem, hb.formatting⟩
      rw [lasting, List.erase_cons_head]
      exact hb.order
    have hafter := (h (some node)).keeps _ hopened
    exact ⟨hafter.headed, hafter.order, nofun, hafter.formatting⟩

instance (t : Token) : Keeps (Placed r hd none) (afterHeadRules t) := by
  have implied : Keeps (Placed r hd none) afterHeadRules.implied := by
    dsimp only [afterHeadRules.implied]
    infer_instance
  dsimp only [afterHeadRules]
  refine ite ?_ ?_
  · split <;> infer_instance
  split
  · infer_instance
  · refine ite inferInstance <| ite inferInstance <| ite inferInstance <| ite ?_ inferInstance
    exact bind inferInstance fun b => openedBriefly inferInstance _
  · infer_instance
  · infer_instance

/-! ## Foreign elements -/

instance (space : Space) (tag : Tag) : Keeps (Placed r hd e) (insertForeign space tag) := by
  refine (Yields.insertNamed _ _).keeps_bind fun node hnode => ?_
  exact ite ((push hnode).bind inferInstance) inferInstance

instance : Keeps (Placed r hd e) leaveForeign := by
  dsimp only [leaveForeign]
  exact bind (close fun _ => List.dropWhile_sublist _) inferInstance

instance (tag : Tag) : Keeps (Placed r hd e) (startForeign tag) := by
  dsimp only [startForeign]
  infer_instance

/-- Closing a foreign element keeps the root element and the head placed. -/
theorem endForeign_go {opens : List Nat} (h : Ordered r hd opens)
    (name : String) (a : Arena) (first : Bool) : Keeps (Placed r hd none) (endForeign.go name a opens first) := by
  induction opens generalizing first with
  | nil => exact inferInstanceAs (Keeps _ (pure _))
  | cons i rest ih =>
    have hrest := (List.pairwise_cons.mp h).2
    rw [endForeign.go.eq_def]
    split
    · infer_instance
    · infer_instance
    · next heq =>
      obtain ⟨rfl, rfl⟩ := List.cons.inj heq
      split
      · exact ite inferInstance (ite ((setOpens hrest).bind inferInstance) (ih hrest false))
      · exact ih hrest false

instance (name : String) : Keeps (Placed r hd none) (endForeign name) := by
  refine Yields.get.keeps_bind fun b hb => ?_
  exact endForeign_go hb.order _ _ _

instance (t : Token) : Keeps (Placed r hd none) (foreignRules t) := by
  cases t <;> dsimp only [foreignRules] <;> infer_instance

/-! ## The body -/

instance : Keeps I bodyElement? := by
  refine bind inferInstance fun b => ?_
  split <;> infer_instance

instance (c : Char) : Keeps (Placed r hd e) (bodyChar c) := by
  dsimp only [bodyChar]
  infer_instance

instance (tag : Tag) : Keeps (Placed r hd e) (startItem tag) := by
  dsimp only [startItem]
  refine bind inferInstance fun _ => bind inferInstance fun b => ?_
  split
  · split <;> infer_instance
  · infer_instance

instance (tag : Tag) : Keeps (Placed r hd none) (startAnchor tag) := by
  refine bind inferInstance fun b => ?_
  split <;> infer_instance

/-- The body is neither the root element nor the head. -/
theorem notMem_of_bodyElement? :
    Yields (Placed r hd e) (fun body? => ∀ body ∈ body?, body ∉ [r, hd]) bodyElement? := by
  refine Yields.get.bind fun b hb => ?_
  split
  · refine .pure fun body hbody => ?_
    obtain ⟨hnamed, hbody⟩ := Option.ite_none_right_eq_some.mp hbody
    obtain rfl := Option.some.inj hbody
    simp only [List.mem_cons, List.not_mem_nil, or_false, not_or]
    constructor
    · rintro rfl
      exact absurd (hnamed.symm.trans (Arena.isOneOf_of_isElement hb.headed.root)) (by decide)
    · rintro rfl
      exact absurd (hnamed.symm.trans (Arena.isOneOf_of_isElement hb.headed.head)) (by decide)
  · exact .pure nofun

instance (tag : Tag) : Keeps (Placed r hd e) (startFrameset tag) := by
  refine bind inferInstance fun b => ite ?_ inferInstance
  refine notMem_of_bodyElement?.keeps_bind fun body? hbody => ?_
  split
  · next body =>
    have hbody := hbody body rfl
    refine bind ⟨fun b hb => ⟨hb.headed.detach hbody, hb.order, hb.brief, hb.formatting⟩⟩ fun _ => ?_
    exact bind (close fun _ => List.drop_sublist _ _) inferInstance
  · infer_instance

instance (tag : Tag) : Keeps (Placed r hd none) (bodyStart tag) := by
  dsimp only [bodyStart]
  refine ite inferInstance <| ite inferInstance <| ite ?_ inferInstance
  refine bind inferInstance fun body? => ?_
  split <;> infer_instance

instance : Keeps (Placed r hd e) endForm := by
  dsimp only [endForm]
  refine bind inferInstance fun _ => ite inferInstance ?_
  refine bind inferInstance fun _ => bind inferInstance fun _ => ?_
  split <;> infer_instance

instance (tag : Tag) : Keeps (Placed r hd none) (bodyEnd tag) := by
  dsimp only [bodyEnd]
  infer_instance

instance : Keeps (Placed r hd e) templateStop := by
  dsimp only [templateStop]
  infer_instance

instance (t : Token) : Keeps (Placed r hd none) (bodyRules t) := by
  cases t <;> dsimp only [bodyRules] <;> infer_instance

instance (t : Token) : Keeps (Placed r hd e) (textRules t) := by
  cases t <;> dsimp only [textRules] <;> infer_instance

/-! ## Tables -/

instance (t : Token) : Keeps (Placed r hd none) (foster t) := by
  dsimp only [foster]
  infer_instance

instance (t : Token) : Keeps (Placed r hd none) (tableRules t) := by
  cases t <;> dsimp only [tableRules] <;> infer_instance

instance (t : Token) : Keeps (Placed r hd none) (tableTextRules t) := by
  dsimp only [tableTextRules]
  split <;> infer_instance

instance (t : Token) : Keeps (Placed r hd none) (captionRules t) := by
  dsimp only [captionRules]
  split <;> infer_instance

instance (t : Token) : Keeps (Placed r hd none) (columnGroupRules t) := by
  cases t <;> dsimp only [columnGroupRules] <;> infer_instance

instance (t : Token) : Keeps (Placed r hd none) (tableBodyRules t) := by
  dsimp only [tableBodyRules]
  split <;> infer_instance

instance (t : Token) : Keeps (Placed r hd none) (rowRules t) := by
  dsimp only [rowRules]
  split <;> infer_instance

instance (t : Token) : Keeps (Placed r hd none) (cellRules t) := by
  dsimp only [cellRules]
  split <;> infer_instance

/-! ## Selections, templates and frame sets -/

instance : Keeps (Placed r hd e) leaveSelect := by
  dsimp only [leaveSelect]
  infer_instance

instance (t : Token) : Keeps (Placed r hd none) (selectRules t) := by
  have closeSelect : Keeps (Placed r hd none) selectRules.closeSelect := by
    dsimp only [selectRules.closeSelect]
    infer_instance
  cases t <;> dsimp only [selectRules]
  case endTag tag =>
    refine ite (bind inferInstance fun b => ?_) inferInstance
    split <;> infer_instance
  all_goals infer_instance

instance (t : Token) : Keeps (Placed r hd none) (selectInTableRules t) := by
  dsimp only [selectInTableRules]
  split <;> infer_instance

instance (t : Token) : Keeps (Placed r hd none) (templateRules t) := by
  cases t <;> dsimp only [templateRules] <;> infer_instance

instance (t : Token) : Keeps (Placed r hd none) (afterBodyRules t) := by
  dsimp only [afterBodyRules]
  refine ite inferInstance ?_
  split <;> infer_instance

instance (t : Token) : Keeps (Placed r hd none) (afterAfterBodyRules t) := by
  dsimp only [afterAfterBodyRules]
  refine ite inferInstance ?_
  split <;> infer_instance

instance (t : Token) : Keeps (Placed r hd none) (framesetRules t) := by
  cases t <;> dsimp only [framesetRules] <;> infer_instance

instance (t : Token) : Keeps (Placed r hd none) (afterFramesetRules t) := by
  cases t <;> dsimp only [afterFramesetRules] <;> infer_instance

instance (t : Token) : Keeps (Placed r hd none) (afterAfterFramesetRules t) := by
  dsimp only [afterAfterFramesetRules]
  refine ite inferInstance ?_
  split <;> infer_instance

/-! ## Tokens -/

open Document

instance (mode : Mode) (t : Token) : Keeps (Placed r hd none) (rules mode t) := by
  cases mode <;> dsimp only [rules] <;> infer_instance

instance process (fuel : Nat) (t : Token) : Keeps (Placed r hd none) (process fuel t) := by
  induction fuel with
  | zero => exact inferInstanceAs (Keeps _ (pure _))
  | succ fuel ih =>
    -- Whatever the rules of foreign elements decide, the rules of the insertion mode come last.
    have hrules : ∀ ordinary : Bool, Keeps (Placed r hd none) (if ordinary = true then (get >>= fun b =>
        rules b.mode t >>= fun outcome =>
          match outcome with
          | .done => pure ()
          | .again => Document.process fuel t) else pure ()) := by
      refine fun ordinary => ite (bind inferInstance fun b => bind inferInstance fun outcome => ?_) inferInstance
      cases outcome <;> infer_instance
    dsimp only [Document.process]
    refine bind inferInstance fun b => ite (bind inferInstance fun outcome => ?_) (bind inferInstance hrules)
    cases outcome <;> exact bind inferInstance hrules

instance (t : Token) : Keeps (Placed r hd none) (accept t) := by
  have run : ∀ t, Keeps (Placed r hd none) (accept.run t) := fun t => bind inferInstance fun _ => process _ t
  dsimp only [accept]
  refine bind inferInstance fun b => bind inferInstance fun _ => ?_
  split <;> infer_instance

end Keeps

end WidgetTemplates.Markup.Build
