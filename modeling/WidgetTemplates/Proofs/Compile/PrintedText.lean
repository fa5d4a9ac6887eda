import WidgetTemplates.Proofs.Compile.StaticMarkup
import WidgetTemplates.Proofs.Markup.ScannedText

/-!
# Texts in print

A render function is read as `effects`: the characters of the markup that it writes, and its other lines. What it
writes for a forest in a gap (`Gap`) of a larger one stands between what is written in front of the gap and behind it,
which depend on the gap only (`Gap.effects_fill`). A text is written escaped wherever it stands. That is right where
references are decoded, as they are in most elements, but a browser takes the text of a `script` or a `style` as it is:
there a text is reproduced only if nothing in it is escaped (`Gap.text_reproduced_iff`).
-/

namespace WidgetTemplates.Compile

open Script (Expr)
open Template (Element Location Node)

/-! ## What is written, character by character -/

/-- What a render function does: it writes a character of markup, or it has another line that is something else than
markup. -/
inductive Effect where
  | char (c : Char)
  | line (l : Line)

/-- Characters of markup. -/
def charEffects (cs : List Char) : List Effect := cs.map .char

/-- What a line does. -/
def lineEffects (l : Line) : List Effect :=
  match markupOfLine? l.text.toList with
  | some markup => charEffects markup
  | none => [.line l]

/-- What the lines of a render function do. -/
def effects (body : List Line) : List Effect := body.flatMap lineEffects

/-- What comes of an entry. -/
def Entry.effects : Entry → List Effect
  | .markup _ text => charEffects text.toList
  | .line l => lineEffects l

/-- The effects of two texts in a row. -/
theorem charEffects_append (cs ds : List Char) : charEffects (cs ++ ds) = charEffects cs ++ charEffects ds :=
  List.map_append

/-- The effects of a text tell the text. -/
theorem charEffects_injective : Function.Injective charEffects :=
  List.map_injective_iff.mpr fun _ _ h => Effect.char.inj h

/-- What comes of a line that writes markup are the characters of the markup. -/
theorem lineEffects_quote (depth : Nat) (markup : String) :
    lineEffects ⟨depth, "out.w(" ++ Script.quote markup ++ ");"⟩ = charEffects markup.toList := by
  rw [lineEffects, markupOfLine?_quote]

/-- Joined markup amounts to the same as its pieces. -/
theorem flatMap_effects_of_markup {es : List Entry} (flat : ∀ e ∈ es, e.isMarkup = true) :
    es.flatMap Entry.effects = charEffects (String.join (es.map Entry.text)).toList := by
  induction es with
  | nil => rfl
  | cons e es ih =>
    obtain ⟨he, hes⟩ := List.forall_mem_cons.mp flat
    rw [List.flatMap_cons, ih hes, List.map_cons, String.join_cons, String.toList_append, charEffects_append]
    cases e with
    | markup depth text => rfl
    | line l => exact nomatch he

/-- What follows markup in a run is markup. -/
theorem isMarkup_of_isChain {e : Entry} {more : List Entry}
    (chain : (e :: more).IsChain fun a b => (a.isMarkup && b.isMarkup) = true) : ∀ x ∈ more, x.isMarkup = true := by
  induction more generalizing e with
  | nil => exact List.forall_mem_nil _
  | cons x more ih =>
    obtain ⟨hboth, hrest⟩ := List.isChain_cons_cons.mp chain
    exact List.forall_mem_cons.mpr ⟨(Bool.and_eq_true_iff.mp hboth).2, ih hrest⟩

/-- The line that a run is merged to has the effects of its entries. -/
theorem effects_mergedRun {run : List Entry}
    (chain : run.IsChain fun a b => (a.isMarkup && b.isMarkup) = true) :
    effects (mergedRun run) = run.flatMap Entry.effects := by
  rcases run with _ | ⟨e, more⟩
  · rfl
  · have hmore := isMarkup_of_isChain chain
    cases e with
    | markup depth text =>
      have hflat : ∀ x ∈ Entry.markup depth text :: more, x.isMarkup = true := List.forall_mem_cons.mpr ⟨rfl, hmore⟩
      rw [flatMap_effects_of_markup hflat, mergedRun]
      split
      · next hempty =>
        rw [List.map_cons, Entry.text, String.isEmpty_iff.mp hempty]
        rfl
      · rw [effects, List.flatMap_singleton, lineEffects_quote]
        rfl
    | line l =>
      rcases more with _ | ⟨x, more⟩
      · rfl
      · -- nothing else stands in a run with a line
        exact absurd (List.isChain_cons_cons.mp chain).1 Bool.false_ne_true

/-- Merging changes nothing of what is written. -/
theorem effects_merged (es : List Entry) : effects (merged es) = es.flatMap Entry.effects := by
  have hruns : (markupRuns es).flatten = es := List.flatten_splitBy _ es
  conv_rhs => rw [← hruns, ← List.flatMap_id, List.flatMap_assoc]
  rw [effects, merged, List.flatMap_assoc]
  refine List.flatMap_congr fun run hrun => ?_
  exact effects_mergedRun (List.isChain_of_mem_splitBy hrun)

/-- What the module of a forest does. -/
def written (u : CompileUnit) (nodes : List Node) : List Effect := effects (generate u nodes).1.body

/-- What a module does is what its entries do. -/
theorem written_eq (u : CompileUnit) (nodes : List Node) :
    written u nodes = (entriesAll 1 nodes).flatMap Entry.effects := by
  rw [written, body_merged, effects_merged]

/-! ## Gaps -/

/-- A gap in a forest: what stands around it, between the nodes of a forest, the children of an element or the nodes in
the body of a loop. -/
inductive Gap where
  | top (before after : List Node)
  | element (el : Element) (before after : List Node) (outer : Gap)
  | loop (item : String) (source : Expr) (location : Location) (before after : List Node) (outer : Gap)

/-- What is written before the children of an element. -/
def openEntries (depth : Nat) (el : Element) : List Entry :=
  el.before.map (.ofStmt depth) ++ wrapperOpening depth el.widget
    ++ [.markup (innerDepth depth el) ("<" ++ el.tag)] ++ el.attributes.map (.ofAttr (innerDepth depth el))
    ++ [.markup (innerDepth depth el) ">"]

/-- What is written after the children of an element that has content. -/
def closeEntries (depth : Nat) (el : Element) : List Entry :=
  [.markup (innerDepth depth el) ("</" ++ el.tag ++ ">")] ++ wrapperClosing depth el.widget
    ++ el.after.map (.ofStmt depth)

/-- The entries of an element that may have content. -/
theorem entries_element {el : Element} (content : Template.isVoid el.tag = false) (depth : Nat) (children : List Node) :
    entries depth (.element el children) =
      openEntries depth el ++ entriesAll (innerDepth depth el) children ++ closeEntries depth el := by
  simp [entries, openEntries, closeEntries, content]

namespace Gap

/-- The forest with nodes in the gap. -/
def fill : Gap → List Node → List Node
  | .top before after, nodes => before ++ nodes ++ after
  | .element el before after outer, nodes => outer.fill [.element el (before ++ nodes ++ after)]
  | .loop item source location before after outer, nodes =>
    outer.fill [.loop item source (before ++ nodes ++ after) location]

/-- The elements around the gap, innermost first. -/
def elements : Gap → List Element
  | .top _ _ => []
  | .element el _ _ outer => el :: outer.elements
  | .loop _ _ _ _ _ outer => outer.elements

/-- Whether what stands in the gap is printed: the children of an element without content are not. -/
def isPrinted (g : Gap) : Bool := g.elements.all fun el => !Template.isVoid el.tag

/-- How deep what stands in the gap is indented. -/
def depth : Gap → Nat
  | .top _ _ => 1
  | .element el _ _ outer => innerDepth outer.depth el
  | .loop _ _ _ _ _ outer => outer.depth + 1

/-- What is written before what stands in the gap. -/
def front : Gap → List Entry
  | .top before _ => entriesAll 1 before
  | .element el before _ outer =>
    outer.front ++ openEntries outer.depth el ++ entriesAll (innerDepth outer.depth el) before
  | .loop item source _ before _ outer =>
    outer.front ++
      [.line ⟨outer.depth, "(" ++ Writer.loopSource source ++ " || []).forEach(function (" ++ item ++ ") \x7b"⟩]
      ++ entriesAll (outer.depth + 1) before

/-- What is written after what stands in the gap. -/
def back : Gap → List Entry
  | .top _ after => entriesAll 1 after
  | .element el _ after outer =>
    entriesAll (innerDepth outer.depth el) after ++ closeEntries outer.depth el ++ outer.back
  | .loop _ _ _ _ after outer =>
    entriesAll (outer.depth + 1) after ++ [.line ⟨outer.depth, "\x7d);"⟩] ++ outer.back

/-- A gap in an element is printed exactly if the element may have content and is printed itself. -/
theorem isPrinted_element (el : Element) (before after : List Node) (outer : Gap) :
    (Gap.element el before after outer).isPrinted = true ↔ Template.isVoid el.tag = false ∧ outer.isPrinted = true := by
  simp [isPrinted, elements]

/-- What stands in the gap is written between what comes before and after the gap. -/
theorem entriesAll_fill {g : Gap} (shown : g.isPrinted = true) (nodes : List Node) :
    entriesAll 1 (g.fill nodes) = g.front ++ entriesAll g.depth nodes ++ g.back := by
  induction g generalizing nodes with
  | top before after => rw [fill, entriesAll_append, entriesAll_append, front, back, depth]
  | element el before after outer ih =>
    obtain ⟨hcontent, houter⟩ := (isPrinted_element el before after outer).mp shown
    -- the siblings are written at the depth of what stands in the gap
    rw [fill, ih houter, entriesAll, entries_element hcontent, entriesAll_append, entriesAll_append, front, back, depth]
    simp [entriesAll]
  | loop item source location before after outer ih =>
    rw [fill, ih shown, entriesAll, entries, entriesAll_append, entriesAll_append, front, back, depth]
    simp [entriesAll]

/-- What stands in a gap that is printed is written between the same effects. -/
theorem effects_fill (u : CompileUnit) {g : Gap} (shown : g.isPrinted = true) (nodes : List Node) :
    written u (g.fill nodes) = g.front.flatMap Entry.effects ++ (entriesAll g.depth nodes).flatMap Entry.effects
      ++ g.back.flatMap Entry.effects := by
  rw [written_eq, entriesAll_fill shown, List.flatMap_append, List.flatMap_append]

/-! ## Gaps that are not printed -/

/-- Nodes in a gap that are printed alike make forests that are printed alike. -/
theorem printedAll_fill_congr {nodes more : List Node} (alike : printedAll nodes = printedAll more) (g : Gap) :
    printedAll (g.fill nodes) = printedAll (g.fill more) := by
  induction g generalizing nodes more with
  | top before after => simp only [fill, printedAll_append, alike]
  | element el before after outer ih =>
    refine ih ?_
    simp only [printedAll, printed, printedAll_append, alike]
  | loop item source location before after outer ih =>
    refine ih ?_
    simp only [printedAll, printed, printedAll_append, alike]

/-- Inside an element without content it does not matter what stands in the gap. -/
theorem printedAll_fill_of_hidden {g : Gap} (hidden : g.isPrinted = false) (nodes more : List Node) :
    printedAll (g.fill nodes) = printedAll (g.fill more) := by
  induction g generalizing nodes more with
  | top before after => exact nomatch hidden
  | element el before after outer ih =>
    rcases hvoid : Template.isVoid el.tag with _ | _
    · refine ih ?_ _ _
      rw [Bool.eq_false_iff, Ne, isPrinted_element] at hidden
      exact Bool.eq_false_iff.mpr fun shown => hidden ⟨hvoid, shown⟩
    · refine printedAll_fill_congr ?_ outer
      simp only [printedAll, printed, hvoid, if_true]
  | loop item source location before after outer ih => exact ih hidden _ _

/-- What stands in a gap that is not printed does not matter. -/
theorem generate_fill_of_hidden (u : CompileUnit) {g : Gap} (hidden : g.isPrinted = false) (nodes more : List Node) :
    generate u (g.fill nodes) = generate u (g.fill more) := by
  simp only [generate, ← Writer.putAll_printedAll, printedAll_fill_of_hidden hidden nodes more]

/-! ## Texts -/

/-- Whether a browser takes the text in the gap as it is: the innermost element is a `script` or a `style`. -/
def isRaw (g : Gap) : Bool := g.elements.head?.any fun el => el.tag == "script" || el.tag == "style"

/-- The text that markup in the gap stands for. -/
def reads (g : Gap) (markup : List Char) : List Char := if g.isRaw then markup else Markup.scannedText markup

/-- In an element that has nothing else in it, what stands in the gap is written between the tags. -/
theorem tags_around (el : Element) (outer : Gap) :
    (∃ before, (Gap.element el [] [] outer).front.flatMap Entry.effects = before ++ charEffects ">".toList) ∧
      ∃ after, (Gap.element el [] [] outer).back.flatMap Entry.effects =
        charEffects ("</" ++ el.tag ++ ">").toList ++ after := by
  constructor
  · rw [front, openEntries, entriesAll, List.append_nil, ← List.append_assoc, List.flatMap_append,
      List.flatMap_singleton, Entry.effects]
    exact ⟨_, rfl⟩
  · rw [back, closeEntries, entriesAll, List.nil_append, List.append_assoc, List.append_assoc, List.flatMap_append,
      List.flatMap_singleton, Entry.effects]
    exact ⟨_, rfl⟩

/-- A text is written escaped, wherever it stands. -/
theorem written_fill_text (u : CompileUnit) {g : Gap} (shown : g.isPrinted = true) (value : String)
    (location : Location) :
    written u (g.fill [.text value location]) =
      g.front.flatMap Entry.effects ++ charEffects (value.toList.flatMap Markup.escapeTextChar)
        ++ g.back.flatMap Entry.effects := by
  rw [effects_fill u shown]
  simp [entriesAll, entries, Entry.effects, Markup.escapeText, Text.expand]

/-- **When the text of an element is reproduced.** A text stands in print between what comes before and after its gap,
which for the only child of an element are the tags of that element. What is printed stands for the text exactly if the
text is not that of a `script` or a `style`, or has no character that is escaped. In an element without content nothing
is printed. -/
theorem text_reproduced_iff (u : CompileUnit) (g : Gap) (value : String) (location : Location) :
    (g.isPrinted = true → ∃ markup,
      written u (g.fill [.text value location]) =
          g.front.flatMap Entry.effects ++ charEffects markup ++ g.back.flatMap Entry.effects ∧
        (g.reads markup = value.toList ↔ (g.isRaw = true → ∀ c ∈ value.toList, c ∉ Markup.markupChars))) ∧
      (g.isPrinted = false → ∀ nodes, generate u (g.fill nodes) = generate u (g.fill [])) ∧
        ∀ el outer, g = .element el [] [] outer →
          (∃ before, g.front.flatMap Entry.effects = before ++ charEffects ">".toList) ∧
            ∃ after, g.back.flatMap Entry.effects = charEffects ("</" ++ el.tag ++ ">").toList ++ after := by
  refine ⟨fun shown => ⟨_, written_fill_text u shown value location, ?_⟩, fun hidden nodes => ?_, ?_⟩
  · rw [reads]
    rcases g.isRaw with _ | _
    · -- references are decoded
      rw [if_neg Bool.false_ne_true, Markup.scannedText_escaped]
      simp
    · -- the escaped text itself is taken for the text
      rw [if_pos rfl, Markup.flatMap_escapeTextChar_eq_self_iff]
      simp
  · exact generate_fill_of_hidden u hidden nodes []
  · rintro el outer rfl
    exact tags_around el outer

/-- The text of a paragraph in a loop stands for what it was, between `<p>` and `</p>`. -/
theorem text_reproduced_of_paragraph :
    let g : Gap := .element { tag := "p" } [] [] (.loop "x" (.ident "xs") .start [] []
      (.element { tag := "div" } [.text "a" .start] [] (.top [] [])))
    g.isPrinted = true ∧ ∃ markup,
      written {} (g.fill [.text "1 < 2 & 3" .start]) =
          g.front.flatMap Entry.effects ++ charEffects markup ++ g.back.flatMap Entry.effects ∧
        g.reads markup = "1 < 2 & 3".toList := by
  intro g
  have shown : g.isPrinted = true := by decide
  obtain ⟨hprinted, -, -⟩ := text_reproduced_iff {} g "1 < 2 & 3" .start
  obtain ⟨markup, hwritten, hreads⟩ := hprinted shown
  exact ⟨shown, markup, hwritten, hreads.mpr (nofun : g.isRaw = true → _)⟩

/-- The text of a script: `<` and `&` are printed as references, which a browser takes for the script itself. -/
theorem script_text_changed :
    let g : Gap := .element { tag := "script" } [] [] (.top [] [])
    let value := "if (a < b && c) go()"
    g.isPrinted = true ∧ g.isRaw = true ∧ ¬ ['<', '/'] <:+: value.toList ∧
      g.front.flatMap Entry.effects = charEffects "<script>".toList ∧
        g.back.flatMap Entry.effects = charEffects "</script>".toList ∧
          ∀ markup, written {} (g.fill [.text value .start]) =
              g.front.flatMap Entry.effects ++ charEffects markup ++ g.back.flatMap Entry.effects →
            markup = "if (a &lt; b &amp;&amp; c) go()".toList ∧ markup ≠ value.toList := by
  intro g value
  have shown : g.isPrinted = true := by decide
  have hescaped : value.toList.flatMap Markup.escapeTextChar = "if (a &lt; b &amp;&amp; c) go()".toList := by decide
  have hslash : '/' ∉ value.toList := by decide
  have hopen : ¬ ['<', '/'] <:+: value.toList := fun h => hslash (h.subset (List.mem_cons_of_mem _ List.mem_cons_self))
  refine ⟨shown, by decide, hopen, rfl, rfl, ?_⟩
  intro markup hwritten
  have hsame := hwritten.symm.trans (written_fill_text {} shown value .start)
  have hmarkup := charEffects_injective (List.append_cancel_left (List.append_cancel_right hsame))
  rw [hmarkup, hescaped]
  exact ⟨rfl, by decide⟩

end Gap

end WidgetTemplates.Compile
