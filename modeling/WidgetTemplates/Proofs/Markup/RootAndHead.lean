import WidgetTemplates.Proofs.Markup.HeadKept

/-!
# Every document has a head

Whatever the text, the document that is read from it has a root element with a head in it: the first token that is no
white space, no comment and no document type makes the two appear unless their own start tags come, and at the latest
the end of the text does (`exists_head_parse`). Up to that token nothing but comments is placed (`Stage`), and from then
on the two stay where they are.
-/

namespace WidgetTemplates.Markup

open Build Document

variable {α β : Type} {b b' : Builder} {t : Token} {mode : Mode}

/-- Two steps in a row run one after the other. -/
theorem bind_apply (m : Build α) (f : α → Build β) (b : Builder) : (m >>= f) b = f (m b).1 (m b).2 := rfl

/-! ## Stages -/

/-- Nothing but comments is placed: the document itself is there, no element is open and no formatting is in effect. -/
structure Bare (mode : Mode) (b : Builder) : Prop where
  mode_eq : b.mode = mode
  size_pos : 0 < b.arena.size
  opens : b.opens = []
  formatting : b.formatting = []

/-- The root element is placed, and the head comes next: the root element is at the top, it alone is open, and no
formatting is in effect. -/
structure Rooted (b : Builder) : Prop where
  mode_eq : b.mode = .beforeHead
  formatting : b.formatting = []
  root : ∃ r, b.opens = [r] ∧ r ∈ (b.arena.cell 0).children ∧ (b.arena.cell r).IsElement "html"

/-- How far the construction is on its way to a placed head. -/
inductive Stage (b : Builder) : Prop where
  | initial (h : Bare .initial b)
  | beforeHtml (h : Bare .beforeHtml b)
  | beforeHead (h : Rooted b)
  | placed (r hd : Nat) (h : Placed r hd none b)

instance : Robust (Bare mode) :=
  ⟨fun _ _ hgrows h => ⟨h.mode_eq, Nat.lt_of_lt_of_le h.size_pos hgrows.size_le, h.opens, h.formatting⟩⟩

instance : Robust Rooted := by
  refine ⟨fun b a hgrows h => ⟨h.mode_eq, h.formatting, ?_⟩⟩
  obtain ⟨r, hopens, hmem, hroot⟩ := h.root
  exact ⟨r, hopens, hgrows.mem_children 0 r hmem, hgrows.isElement r _ hroot⟩

/-- The other marks of the construction do not matter. -/
theorem Stage.congr (h : Stage b) (arena : b'.arena = b.arena) (mode : b'.mode = b.mode) (opens : b'.opens = b.opens)
    (formatting : b'.formatting = b.formatting) : Stage b' := by
  have bare : ∀ {m}, Bare m b → Bare m b' := fun h =>
    ⟨mode.trans h.mode_eq, arena ▸ h.size_pos, opens.trans h.opens, formatting.trans h.formatting⟩
  cases h with
  | initial h => exact .initial (bare h)
  | beforeHtml h => exact .beforeHtml (bare h)
  | beforeHead h =>
    exact .beforeHead ⟨mode.trans h.mode_eq, formatting.trans h.formatting, by rw [arena, opens]; exact h.root⟩
  | placed r hd h => exact .placed r hd (h.congr arena opens formatting)

/-! ## The root element and the head appear -/

/-- An element that is no template is created as the last node. -/
theorem createElement_apply {name : Name} (h : name ≠ ⟨.html, "template"⟩) (attrs : List (String × String))
    (b : Builder) : createElement name attrs b =
      (b.arena.size, { b with arena := b.arena.create (.element name attrs none) }) := by
  rw [createElement, if_neg (by simpa using h)]
  rfl

/-- The root element appears. -/
theorem Bare.createRoot (h : Bare mode b) (attrs : List (String × String)) :
    Rooted { (createRoot attrs b).2 with mode := .beforeHead } := by
  rw [Build.createRoot, bind_apply, createElement_apply (by decide)]
  refine ⟨rfl, h.formatting, b.arena.size, congrArg (b.arena.size :: ·) h.opens, ?_, ?_⟩
  · refine Arena.mem_children_append ?_ _
    rw [Arena.create, Array.size_push]
    exact Nat.zero_lt_succ _
  · exact (Arena.Grows.append _ _ _).isElement _ _ ⟨attrs, Arena.cell_create_size _⟩

/-- What is inserted while the root element is innermost goes into it. -/
theorem spot_apply {r : Nat} {rest : List Nat} (hopens : b.opens = r :: rest)
    (hroot : (b.arena.cell r).IsElement "html") : spot b = (.under r, b) := by
  have hplain : b.arena.isOneOf tableParts r = false := by
    rw [Arena.isOneOf_of_isElement hroot]
    decide
  have hcontent : contentOf b.arena r = r := by
    obtain ⟨attrs, hkind⟩ := hroot
    rw [contentOf, hkind]
  rw [spot, bind_apply, current?, bind_apply]
  change spotFor (b.opens.head?.getD 0) b = _
  rw [hopens, List.head?_cons, Option.getD_some, spotFor, bind_apply]
  change (if (b.fostering && b.arena.isOneOf tableParts r) = true then pure (fosterSpot b.arena b.opens)
    else pure (.under (contentOf b.arena r)) : Build Spot) b = _
  rw [hplain, Bool.and_false, if_neg Bool.false_ne_true, hcontent]
  rfl

/-- An element that is inserted while the root element is innermost. -/
theorem insert_apply {r : Nat} {rest : List Nat} (hopens : b.opens = r :: rest)
    (hroot : (b.arena.cell r).IsElement "html") (tag : Tag) (hname : tag.name ≠ "template") :
    insert tag b = (b.arena.size, { b with
      arena := (b.arena.create (.element ⟨.html, tag.name⟩ tag.attrs none)).append r b.arena.size
      opens := b.arena.size :: b.opens }) := by
  have hgrows := Arena.Grows.create b.arena (.element ⟨.html, tag.name⟩ tag.attrs none)
  have hnamed : insertNamed ⟨.html, tag.name⟩ tag.attrs b = (b.arena.size, { b with
      arena := (b.arena.create (.element ⟨.html, tag.name⟩ tag.attrs none)).append r b.arena.size }) := by
    rw [insertNamed, bind_apply, createElement_apply fun heq => hname (congrArg Name.tag heq), bind_apply,
      spot_apply (b := { b with arena := b.arena.create (.element ⟨.html, tag.name⟩ tag.attrs none) }) hopens
        (hgrows.isElement r _ hroot)]
    rfl
  rw [Build.insert, bind_apply, hnamed]
  rfl

/-- The head appears. -/
theorem Rooted.insertHead (h : Rooted b) (attrs : List (String × String)) (selfClosing : Bool) :
    ∃ r hd, Placed r hd none (insert ⟨"head", attrs, selfClosing⟩ b).2 := by
  obtain ⟨r, hopens, hmem, hroot⟩ := h.root
  have hcreate := Arena.Grows.create b.arena (.element ⟨.html, "head"⟩ attrs none)
  have happend := Arena.Grows.append (b.arena.create (.element ⟨.html, "head"⟩ attrs none)) r b.arena.size
  have hgrows := hcreate.trans happend
  have hr : r < (b.arena.create (.element ⟨.html, "head"⟩ attrs none)).size :=
    Nat.lt_of_lt_of_le (Arena.lt_size_of_isElement hroot) hcreate.size_le
  refine ⟨r, b.arena.size, ?_⟩
  rw [insert_apply hopens hroot _ (show "head" ≠ "template" by decide)]
  refine ⟨⟨hgrows.mem_children 0 r hmem, Arena.mem_children_append hr _, hgrows.isElement r _ hroot,
    happend.isElement _ _ ⟨attrs, Arena.cell_create_size _⟩⟩, ?_, nofun, ?_⟩
  · dsimp only [lasting]
    rw [hopens, Ordered]
    simp
  · dsimp only
    rw [h.formatting]
    exact fun _ _ hmem => absurd hmem List.not_mem_nil

/-! ## Tokens before the head -/

/-- The rules before the document type lead from stage to stage. -/
theorem Stage.initialRules (h : Bare .initial b) (t : Token) : Stage (initialRules t b).2 := by
  rw [Build.initialRules.eq_def]
  split
  · exact .initial h
  split
  · have hkeeps : Keeps (Bare .initial) (appendComment 0 >>= fun _ => done) := inferInstance
    exact .initial (hkeeps.keeps b h)
  · exact .beforeHtml ⟨rfl, h.size_pos, h.opens, h.formatting⟩

/-- The rules before the root element lead from stage to stage. -/
theorem Stage.beforeHtmlRules (h : Bare .beforeHtml b) (t : Token) : Stage (beforeHtmlRules t b).2 := by
  rw [Build.beforeHtmlRules.eq_def]
  split
  · exact .beforeHtml h
  split
  · have hkeeps : Keeps (Bare .beforeHtml) (appendComment 0 >>= fun _ => done) := inferInstance
    exact .beforeHtml (hkeeps.keeps b h)
  · split
    · exact .beforeHead (h.createRoot _)
    · exact .beforeHead (h.createRoot _)
  · split
    · exact .beforeHead (h.createRoot _)
    · exact .beforeHtml h
  · exact .beforeHead (h.createRoot _)

/-- The rules before the head lead from stage to stage. -/
theorem Stage.beforeHeadRules (h : Rooted b) (t : Token) : Stage (beforeHeadRules t b).2 := by
  have implied : Stage (beforeHeadRules.implied b).2 := by
    obtain ⟨r, hd, hplaced⟩ := h.insertHead [] false
    exact .placed r hd (hplaced.congr rfl rfl rfl)
  rw [Build.beforeHeadRules.eq_def]
  split
  · exact .beforeHead h
  split
  · have hkeeps : Keeps Rooted (insertComment >>= fun _ => done) := inferInstance
    exact .beforeHead (hkeeps.keeps b h)
  · next tag _ =>
    split
    · exact .beforeHead (Keeps.keeps b h)
    split
    · next hname =>
      obtain ⟨name, attrs, selfClosing⟩ := tag
      obtain rfl : name = "head" := eq_of_beq hname
      obtain ⟨r, hd, hplaced⟩ := h.insertHead attrs selfClosing
      exact .placed r hd (hplaced.congr rfl rfl rfl)
    · exact implied
  · split
    · exact implied
    · exact .beforeHead h
  · exact implied

/-! ## Whole texts -/

/-- What has been read when the first rule has had its say: the token is used up, or it is taken again. -/
theorem process_succ (h : isForeign b t = false) (fuel : Nat) : process (fuel + 1) t b =
    match rules b.mode t b with
    | (.done, b') => ((), b')
    | (.again, b') => process fuel t b' := by
  rw [process, bind_apply]
  change (if isForeign b t = true then _ else _ : Build Unit) b = _
  rw [if_neg (by rw [h]; decide), bind_apply]
  change (get >>= _ : Build Unit) b = _
  rw [bind_apply]
  change (rules b.mode t >>= _ : Build Unit) b = _
  rw [bind_apply]
  rcases rules b.mode t b with ⟨_ | _, b'⟩ <;> rfl

/-- Without open elements no token is foreign. -/
theorem isForeign_of_opens_nil (h : b.opens = []) (t : Token) : isForeign b t = false := by
  rw [isForeign.eq_def, h]
  cases t <;> rfl

/-- In the root element no token is foreign. -/
theorem Rooted.isForeign (h : Rooted b) (t : Token) : isForeign b t = false := by
  obtain ⟨r, hopens, -, attrs, hkind⟩ := h.root
  rw [Build.isForeign.eq_def, hopens]
  cases t <;> dsimp only [List.head?_cons] <;> rw [hkind] <;> rfl

/-- Every token leads to a stage again. -/
theorem Stage.process (h : Stage b) (fuel : Nat) (t : Token) : Stage (process fuel t b).2 := by
  induction fuel generalizing b with
  | zero => exact h
  | succ fuel ih =>
    have hstep : isForeign b t = false → Stage (rules b.mode t b).2 →
        Stage (Document.process (fuel + 1) t b).2 := by
      intro hordinary hstage
      rw [process_succ hordinary]
      rcases hrules : rules b.mode t b with ⟨_ | _, b'⟩ <;> rw [hrules] at hstage
      · exact hstage
      · exact ih hstage
    cases h with
    | initial h => exact hstep (isForeign_of_opens_nil h.opens t) (by rw [h.mode_eq]; exact .initialRules h t)
    | beforeHtml h => exact hstep (isForeign_of_opens_nil h.opens t) (by rw [h.mode_eq]; exact .beforeHtmlRules h t)
    | beforeHead h => exact hstep (h.isForeign t) (by rw [h.mode_eq]; exact .beforeHeadRules h t)
    | placed r hd h => exact .placed r hd ((Keeps.process (fuel + 1) t).keeps b h)

/-- The end of the text places the head, if nothing has before. -/
theorem Stage.process_stop (h : Stage b) (fuel : Nat) :
    ∃ r hd, Placed r hd none (Document.process (fuel + 3) .stop b).2 := by
  -- From stage to stage the token is taken again, so each stage needs one round more than the next.
  have placed : ∀ {b r hd} fuel, Placed r hd none b →
      ∃ r hd, Placed r hd none (Document.process fuel .stop b).2 :=
    fun fuel h => ⟨_, _, (Keeps.process fuel .stop).keeps _ h⟩
  have beforeHead : ∀ {b} fuel, Rooted b → ∃ r hd, Placed r hd none (Document.process (fuel + 1) .stop b).2 := by
    intro b fuel h
    obtain ⟨r, hd, hplaced⟩ := h.insertHead [] false
    rw [process_succ (h.isForeign _), h.mode_eq]
    exact placed fuel (hplaced.congr rfl rfl rfl)
  have beforeHtml : ∀ {b} fuel, Bare .beforeHtml b →
      ∃ r hd, Placed r hd none (Document.process (fuel + 2) .stop b).2 := by
    intro b fuel h
    rw [process_succ (isForeign_of_opens_nil h.opens _), h.mode_eq]
    exact beforeHead fuel (h.createRoot [])
  cases h with
  | initial h =>
    rw [process_succ (isForeign_of_opens_nil h.opens _), h.mode_eq]
    exact beforeHtml fuel ⟨rfl, h.size_pos, h.opens, h.formatting⟩
  | beforeHtml h => exact beforeHtml (fuel + 1) h
  | beforeHead h => exact beforeHead (fuel + 2) h
  | placed r hd h => exact placed (fuel + 3) h

/-- A token leads from stage to stage. -/
theorem Stage.accept (h : Stage b) (t : Token) : Stage (accept t b).2 := by
  have hstage : Stage { b with skipNewline := false } := h.congr rfl rfl rfl rfl
  have hrun : ∀ t, Stage (accept.run t { b with skipNewline := false }).2 := fun t => hstage.process _ t
  rw [Document.accept.eq_def, bind_apply, bind_apply]
  split
  · exact hstage
  · next d =>
    rw [bind_apply]
    change Stage ((if (b.mode == .initial) = true then
      modify fun b => { b with outdated := isOld d, mode := .beforeHtml } else pure () : Build Unit)
        { b with skipNewline := false }).2
    split
    · next hinitial =>
      cases h with
      | initial h => exact .beforeHtml ⟨rfl, h.size_pos, h.opens, h.formatting⟩
      | beforeHtml h => exact absurd ((eq_of_beq hinitial).symm.trans h.mode_eq) (by decide)
      | beforeHead h => exact absurd ((eq_of_beq hinitial).symm.trans h.mode_eq) (by decide)
      | placed r hd h => exact .placed r hd (h.congr rfl rfl rfl)
    · exact hstage
  · split
    · exact hstage
    · exact hrun _
  · exact hrun _

/-- The end of the text places the head. -/
theorem Stage.accept_stop (h : Stage b) : ∃ r hd, Placed r hd none (Document.accept .stop b).2 := by
  have hstage : Stage { b with skipNewline := false } := h.congr rfl rfl rfl rfl
  have hfuel : 16 + 4 * b.opens.length = 13 + 4 * b.opens.length + 3 := by omega
  change ∃ r hd, Placed r hd none (Document.process (16 + 4 * b.opens.length) .stop { b with skipNewline := false }).2
  rw [hfuel]
  exact hstage.process_stop _

/-- Tokens lead from stage to stage. -/
theorem Stage.forM_accept (h : Stage b) (tokens : List Token) : Stage (tokens.forM Document.accept b).2 := by
  induction tokens generalizing b with
  | nil => exact h
  | cons t tokens ih => exact ih (h.accept t)

/-- Delivering the tokens of a step builds with them. -/
theorem builder_deliver (r : Reader) :
    r.deliver.builder = { (r.scanner.output.reverse.forM Document.accept r.builder).2 with content := none } := by
  rw [Reader.deliver]
  generalize (r.scanner.output.reverse.forM Document.accept r.builder).2 = b
  rcases hcontent : b.content with _ | _ | _
  · exact congrArg (fun content => { b with content }) hcontent
  · rfl
  · rfl

/-- A character leads from stage to stage. -/
theorem Stage.read {r : Reader} (h : Stage r.builder) (c : Char) : Stage (r.read c).builder := by
  rw [Reader.read]
  split
  · exact h
  · rw [builder_deliver]
    exact (h.forM_accept _).congr rfl rfl rfl rfl

/-- A text leads from stage to stage. -/
theorem Stage.foldl_read {r : Reader} (h : Stage r.builder) (source : List Char) :
    Stage (source.foldl Reader.read r).builder := by
  induction source generalizing r with
  | nil => exact h
  | cons c source ih => exact ih (h.read c)

/-- The last of some tokens is accepted after the others. -/
theorem forM_accept_concat (tokens : List Token) (t : Token) (b : Builder) :
    ((tokens ++ [t]).forM Document.accept b).2 = (Document.accept t (tokens.forM Document.accept b).2).2 := by
  induction tokens generalizing b with
  | nil => rfl
  | cons t' tokens ih => exact ih (Document.accept t' b).2

/-- At the end of the text the head is placed. -/
theorem Stage.finish {r : Reader} (h : Stage r.builder) :
    ∃ root hd, ({ r with scanner := r.scanner.finish } : Reader).deliver.builder.arena.Headed root hd := by
  obtain ⟨output, houtput⟩ : ∃ output, r.scanner.finish.output = .stop :: output := ⟨_, rfl⟩
  rw [builder_deliver]
  dsimp only
  rw [houtput, List.reverse_cons, forM_accept_concat]
  obtain ⟨root, hd, hplaced⟩ := (h.forM_accept output.reverse).accept_stop
  exact ⟨root, hd, hplaced.headed⟩

/-! ## The document -/

/-- A placed head is found in the tree. -/
theorem exists_head_trees {a : Arena} (h : ∃ r hd, a.Headed r hd) :
    ∃ attrs children, Tree.element "html" attrs children ∈ trees a (a.size + 1) 0 ∧
      ∃ attrs' children', Tree.element "head" attrs' children' ∈ children := by
  obtain ⟨r, hd, h⟩ := h
  obtain ⟨n, hn⟩ := Nat.exists_eq_add_one_of_ne_zero (Nat.ne_of_gt (Arena.lt_size_of_mem_children h.root_mem))
  obtain ⟨attrs, hroot⟩ := h.root
  obtain ⟨attrs', hhead⟩ := h.head
  -- The head is two levels deep, and the tree is read one level deeper than there are nodes, of which there is one.
  rw [hn]
  refine ⟨attrs, trees a (n + 1) r, ?_, attrs', trees a n hd, ?_⟩
  · rw [trees, List.mem_map]
    exact ⟨r, Array.mem_toList_iff.mpr h.root_mem, by rw [hroot]; rfl⟩
  · rw [trees, List.mem_map]
    exact ⟨hd, Array.mem_toList_iff.mpr h.head_mem, by rw [hhead]; rfl⟩

/-- **Every document has a root element with a head in it.** -/
theorem exists_head_parse (source : List Char) :
    ∃ attrs children, Tree.element "html" attrs children ∈ Document.parse source ∧
      ∃ attrs' children', Tree.element "head" attrs' children' ∈ children := by
  have hstart : Stage ({} : Reader).builder := .initial ⟨rfl, by decide, rfl, rfl⟩
  have hread (text : List Char) := (hstart.foldl_read (normalizeNewlines text)).finish
  rw [Document.parse.eq_def]
  exact exists_head_trees (hread _)

end WidgetTemplates.Markup
