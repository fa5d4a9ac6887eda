import Mathlib.Data.List.SplitBy
import WidgetTemplates.Proofs.Compile.Printed

/-!
# Merging static markup

The writer gathers static markup and writes it as late as possible. A printer without a buffer writes every
piece of markup at once, as an entry of its own (`entriesAll`): it walks through the forest and knows nothing
but the depth of the wrappers and loops around it. The writer's lines are these entries with each maximal run of
adjacent markup joined into one line (`body_eq_merged`). So nothing is lost, written twice, or moved over a
statement, a computed attribute, or the start or end of a wrapper or a loop.

The invariant is `Writer.Holds`: the writer's lines are the merged entries so far up to the last run of markup,
and that run is what it has gathered.
-/

namespace WidgetTemplates.Compile

open Script (Expr Stmt)
open Template (Attribute Binding Element Node)

/-! ## The printer without a buffer -/

/-- What the printer writes: a piece of static markup, or a line. -/
inductive Entry where
  | markup (depth : Nat) (text : String)
  | line (l : Line)
deriving DecidableEq, Repr

namespace Entry

/-- How deep the entry is indented. -/
def depth : Entry → Nat
  | .markup depth _ => depth
  | .line l => l.depth

/-- Whether the entry is static markup. -/
def isMarkup : Entry → Bool
  | .markup _ _ => true
  | .line _ => false

/-- The static markup of the entry. -/
def text : Entry → String
  | .markup _ text => text
  | .line _ => ""

/-- The line of a statement. -/
def ofStmt (depth : Nat) (s : Stmt) : Entry := .line ⟨depth, s.print⟩

/-- The line that writes what a function of the markup helpers makes of the arguments. -/
def ofHelper (depth : Nat) (function : String) (args : List Expr) : Entry :=
  ofStmt depth (.expr ((Expr.out.member "w").call [((Expr.ident "__markoHelpers").member function).call args]))

/-- An attribute. -/
def ofAttr (depth : Nat) (a : Attribute) : Entry :=
  match a.value with
  | none => .markup depth (" " ++ a.name)
  | some (.str value) => .markup depth (" " ++ a.name ++ "=\"" ++ Markup.escapeValue value ++ "\"")
  | some value => ofHelper depth "a" [.str a.name, value]

end Entry

/-- The depth inside an element. -/
def innerDepth (depth : Nat) (el : Element) : Nat := if el.widget.isSome then depth + 1 else depth

/-- The line that starts the wrapper of an element, if it has one. -/
def wrapperOpening (depth : Nat) : Option Binding → List Entry
  | none => []
  | some b => [.line ⟨depth, b.helper.print ++ "(out, " ++ b.widgetType.print ++ ", function (widget) \x7b"⟩]

/-- The line that ends the wrapper of an element, if it has one. -/
def wrapperClosing (depth : Nat) : Option Binding → List Entry
  | none => []
  | some _ => [.line ⟨depth, "\x7d);"⟩]

mutual

/-- What is written for a node at a depth. -/
def entries (depth : Nat) : Node → List Entry
  | .element el children =>
    let inner := innerDepth depth el
    el.before.map (.ofStmt depth) ++ wrapperOpening depth el.widget
      ++ [.markup inner ("<" ++ el.tag)] ++ el.attributes.map (.ofAttr inner) ++ [.markup inner ">"]
      ++ (if Template.isVoid el.tag then []
          else entriesAll inner children ++ [.markup inner ("</" ++ el.tag ++ ">")])
      ++ wrapperClosing depth el.widget ++ el.after.map (.ofStmt depth)
  | .text value _ => [.markup depth (Markup.escapeText value)]
  | .expression expr _ => [.ofHelper depth "x" [expr]]
  | .loop item source body _ =>
    .line ⟨depth, "(" ++ Writer.loopSource source ++ " || []).forEach(function (" ++ item ++ ") \x7b"⟩
      :: entriesAll (depth + 1) body ++ [.line ⟨depth, "\x7d);"⟩]
  | .code s => [.ofStmt depth s]

/-- What is written for a forest at a depth. -/
def entriesAll (depth : Nat) : List Node → List Entry
  | [] => []
  | node :: rest => entries depth node ++ entriesAll depth rest

end

/-- The entries of two forests in a row. -/
theorem entriesAll_append (depth : Nat) (nodes more : List Node) :
    entriesAll depth (nodes ++ more) = entriesAll depth nodes ++ entriesAll depth more := by
  induction nodes with
  | nil => rfl
  | cons node rest ih => rw [List.cons_append, entriesAll, entriesAll, ih, List.append_assoc]

/-! ## Merging -/

/-- The entries cut into maximal runs of adjacent markup; every line is a run by itself. -/
def markupRuns (es : List Entry) : List (List Entry) := es.splitBy fun a b => a.isMarkup && b.isMarkup

/-- The line that a run becomes. Markup that amounts to nothing becomes none. -/
def mergedRun : List Entry → List Line
  | [] => []
  | .line l :: _ => [l]
  | .markup depth text :: more =>
    let whole := String.join (text :: more.map Entry.text)
    if whole.isEmpty then [] else [⟨depth, "out.w(" ++ Script.quote whole ++ ");"⟩]

/-- The entries with every maximal run of adjacent markup joined into one line. -/
def merged (es : List Entry) : List Line := (markupRuns es).flatMap mergedRun

/-- Merging goes on separately where no two pieces of markup meet. -/
theorem merged_append {es more : List Entry}
    (apart : ∀ x ∈ es.getLast?, ∀ y ∈ more.head?, (x.isMarkup && y.isMarkup) = false) :
    merged (es ++ more) = merged es ++ merged more := by
  rw [merged, markupRuns, List.splitBy_append apart, List.flatMap_append]
  rfl

theorem merged_line (l : Line) : merged [.line l] = [l] := rfl

/-- A line ends a run of markup. -/
theorem merged_concat_line (es : List Entry) (l : Line) : merged (es ++ [.line l]) = merged es ++ [l] := by
  rw [merged_append, merged_line]
  intro x _ y hy
  obtain rfl : y = .line l := by simpa using hy.symm
  simp [Entry.isMarkup]

/-- A line separates what is merged before it from what is merged after it. -/
theorem merged_append_line (es : List Entry) (l : Line) (more : List Entry) :
    merged (es ++ .line l :: more) = merged es ++ l :: merged more := by
  rw [List.append_cons, merged_append, merged_concat_line, List.append_assoc]
  · rfl
  · intro x hx y _
    obtain rfl : .line l = x := by simpa using hx
    rfl

/-- Markup at one depth is a single run. -/
theorem merged_run {depth : Nat} {run : List Entry} (flat : ∀ e ∈ run, ∃ text, e = .markup depth text) :
    merged run =
      let whole := String.join (run.map Entry.text)
      if whole.isEmpty then [] else [⟨depth, "out.w(" ++ Script.quote whole ++ ");"⟩] := by
  rcases run with _ | ⟨e, more⟩
  · rfl
  · have hchain : (e :: more).IsChain fun a b => (a.isMarkup && b.isMarkup) = true := by
      refine List.Pairwise.isChain (List.pairwise_of_forall_mem_list ?_)
      intro a ha b hb
      obtain ⟨_, rfl⟩ := flat a ha
      obtain ⟨_, rfl⟩ := flat b hb
      rfl
    obtain ⟨text, rfl⟩ := flat e List.mem_cons_self
    rw [merged, markupRuns, List.splitBy_of_isChain (List.cons_ne_nil _ _) hchain, List.flatMap_singleton]
    rfl

/-! ## The writer -/

namespace Writer

/-- The writer has written the entries `es`, except that it has only gathered the run of markup at their end: they split
into what is written and the run, which no other markup precedes. -/
structure Holds (w : Writer) (es : List Entry) : Prop where
  split : ∃ done run, es = done ++ run ∧ (∀ x ∈ done.getLast?, x.isMarkup = false) ∧
    (∀ e ∈ run, ∃ text, e = .markup w.depth text) ∧ w.lines = merged done ∧
      w.pending = String.join (run.map Entry.text)

variable {w : Writer} {es : List Entry}

/-- A writer that starts has written nothing. -/
theorem holds_start (u : CompileUnit) : Holds { unit := u } [] :=
  ⟨[], [], rfl, nofun, nofun, rfl, rfl⟩

/-- A piece of markup is gathered. -/
theorem Holds.markup (h : w.Holds es) (text : String) : (w.markup text).Holds (es ++ [.markup w.depth text]) := by
  obtain ⟨done, run, hes, hlast, hrun, hlines, hpending⟩ := h
  refine ⟨done, run ++ [.markup w.depth text], ?_, hlast, ?_, hlines, ?_⟩
  · rw [hes, List.append_assoc]
  · intro e he
    rcases List.mem_append.mp he with he | he
    · exact hrun e he
    · exact ⟨text, List.mem_singleton.mp he⟩
  · rw [Writer.markup, hpending]
    simp [Entry.text, String.join_append]

/-- After flushing all entries are written. -/
theorem Holds.lines_flush (h : w.Holds es) : w.flush.lines = merged es := by
  obtain ⟨done, run, rfl, hlast, hrun, hlines, hpending⟩ := h
  have happend : merged (done ++ run) = merged done ++ merged run := by
    apply merged_append
    intro x hx y _
    simp [hlast x hx]
  rw [happend, merged_run hrun, ← hpending, ← hlines, flush]
  dsimp only
  split
  · exact (List.append_nil _).symm
  · rfl

/-- Nothing is gathered once it has been written out. -/
theorem pending_flush (w : Writer) : w.flush.pending = "" := by
  rw [flush]
  split
  · next hempty => simpa using hempty
  · rfl

/-- Writing out the gathered markup does not change the depth. -/
theorem depth_flush (w : Writer) : w.flush.depth = w.depth := by
  rw [flush]
  split <;> rfl

/-- A line goes behind the markup that has been gathered. The lines after it may have another depth. -/
theorem Holds.line (h : w.Holds es) {w' : Writer} {l : Line} (lines : w'.lines = w.flush.lines ++ [l])
    (pending : w'.pending = "") : w'.Holds (es ++ [.line l]) := by
  refine ⟨es ++ [.line l], [], (List.append_nil _).symm, ?_, nofun, ?_, pending⟩
  · simp [Entry.isMarkup]
  · rw [merged_concat_line, lines, h.lines_flush]

/-- A statement writes out what is gathered and stands behind it. -/
theorem Holds.stmt (h : w.Holds es) (s : Stmt) :
    (w.stmt s).Holds (es ++ [.ofStmt w.depth s]) ∧ (w.stmt s).depth = w.depth := by
  refine ⟨h.line ?_ w.pending_flush, w.depth_flush⟩
  rw [← w.depth_flush]
  rfl

end Writer

/-- What is written for an item at a depth. -/
def Item.entry (depth : Nat) : Item → Entry
  | .markup text => .markup depth text
  | .stmt s => .ofStmt depth s
  | .helper function args => .ofHelper depth function args
  | .openWidget b => .line ⟨depth, b.helper.print ++ "(out, " ++ b.widgetType.print ++ ", function (widget) \x7b"⟩
  | .openLoop item source => .line ⟨depth, Writer.loopHeader item source⟩
  | .close => .line ⟨depth - 1, "\x7d);"⟩

/-- The depth after an item. -/
def Item.depthAfter (depth : Nat) : Item → Nat
  | .openWidget _ | .openLoop _ _ => depth + 1
  | .close => depth - 1
  | _ => depth

/-- What is written for items in order. -/
def itemEntries (depth : Nat) : List Item → List Entry
  | [] => []
  | item :: rest => item.entry depth :: itemEntries (item.depthAfter depth) rest

namespace Writer

variable {w : Writer} {es : List Entry}

/-- Every item adds its entry. -/
theorem Holds.put (h : w.Holds es) (item : Item) :
    (w.put item).Holds (es ++ [item.entry w.depth]) ∧ (w.put item).depth = item.depthAfter w.depth := by
  cases item with
  | markup text => exact ⟨h.markup text, rfl⟩
  | stmt s => exact h.stmt s
  | helper function args =>
    -- declaring the helpers touches none of the fields that hold entries
    have hdeclared : Holds { w with unit := w.unit.importModule "__markoHelpers" "marko/runtime/html/helpers" } es :=
      ⟨h.split⟩
    exact hdeclared.stmt _
  | openWidget b =>
    refine ⟨h.line ?_ w.pending_flush, congrArg (· + 1) w.depth_flush⟩
    rw [← w.depth_flush]
    rfl
  | openLoop item source =>
    refine ⟨h.line ?_ w.pending_flush, congrArg (· + 1) w.depth_flush⟩
    rw [← w.depth_flush]
    rfl
  | close =>
    refine ⟨h.line ?_ w.pending_flush, congrArg (· - 1) w.depth_flush⟩
    rw [← w.depth_flush]
    rfl

/-- Putting items writes their entries. -/
theorem Holds.putAll (h : w.Holds es) (items : List Item) :
    (w.putAll items).Holds (es ++ itemEntries w.depth items) := by
  induction items generalizing w es with
  | nil => simpa [itemEntries] using h
  | cons item rest ih =>
    obtain ⟨hput, hdepth⟩ := h.put item
    have := ih hput
    rwa [hdepth, List.append_assoc] at this

end Writer

/-! ## The items of a forest -/

section Items

variable {depth : Nat} {rest : List Item}

/-- The entries of items depend on the depth that the items before them lead to. -/
theorem itemEntries_append (items : List Item) :
    itemEntries depth (items ++ rest) =
      itemEntries depth items ++ itemEntries (items.foldl Item.depthAfter depth) rest := by
  induction items generalizing depth with
  | nil => rfl
  | cons item more ih => exact congrArg (item.entry depth :: ·) ih

/-- Statements are written at one depth. -/
theorem itemEntries_stmts (ss : List Stmt) :
    itemEntries depth (ss.map .stmt ++ rest) = ss.map (.ofStmt depth) ++ itemEntries depth rest := by
  induction ss with
  | nil => rfl
  | cons s more ih => exact congrArg (Entry.ofStmt depth s :: ·) ih

/-- Attributes are written at one depth. -/
theorem itemEntries_attrs (as : List Attribute) :
    itemEntries depth (as.map printedAttr ++ rest) = as.map (.ofAttr depth) ++ itemEntries depth rest := by
  have hone : ∀ a : Attribute, (printedAttr a).entry depth = .ofAttr depth a ∧
      (printedAttr a).depthAfter depth = depth := by
    rintro ⟨name, _ | value⟩
    · exact ⟨rfl, rfl⟩
    · cases value <;> exact ⟨rfl, rfl⟩
  induction as with
  | nil => rfl
  | cons a more ih =>
    rw [List.map_cons, List.cons_append, itemEntries, (hone a).1, (hone a).2, ih]
    rfl

/-- The entries of a start tag with its wrapper. -/
theorem itemEntries_open (el : Element) :
    itemEntries depth (printedOpen el ++ rest) =
      el.before.map (.ofStmt depth) ++ wrapperOpening depth el.widget
        ++ [.markup (innerDepth depth el) ("<" ++ el.tag)]
        ++ el.attributes.map (.ofAttr (innerDepth depth el)) ++ [.markup (innerDepth depth el) ">"]
        ++ itemEntries (innerDepth depth el) rest := by
  have htag : ∀ d, itemEntries d (startTag el ++ rest) =
      .markup d ("<" ++ el.tag) :: (el.attributes.map (.ofAttr d) ++ .markup d ">" :: itemEntries d rest) := by
    intro d
    rw [startTag, List.cons_append, itemEntries, List.append_assoc]
    exact congrArg (_ :: ·) (itemEntries_attrs el.attributes)
  rw [printedOpen, List.append_assoc, List.append_assoc, itemEntries_stmts]
  rcases hw : el.widget with _ | b
  · simp [wrapperStart, wrapperOpening, innerDepth, hw, htag]
  · simp [wrapperStart, wrapperOpening, innerDepth, hw, htag, itemEntries, Item.entry, Item.depthAfter]

/-- The entries of an end tag with its wrapper. -/
theorem itemEntries_close (el : Element) :
    itemEntries (innerDepth depth el) (printedClose el ++ rest) =
      (if Template.isVoid el.tag then [] else [.markup (innerDepth depth el) ("</" ++ el.tag ++ ">")])
        ++ wrapperClosing depth el.widget ++ el.after.map (.ofStmt depth) ++ itemEntries depth rest := by
  rw [printedClose, endTag]
  rcases hw : el.widget with _ | b <;> rcases Template.isVoid el.tag with _ | _ <;>
    simp [wrapperEnd, wrapperClosing, innerDepth, hw, itemEntries, Item.entry, Item.depthAfter,
      itemEntries_stmts]

mutual

/-- The items of a node become its entries. -/
theorem itemEntries_printed (depth : Nat) (rest : List Item) :
    (node : Node) → itemEntries depth (printed node ++ rest) = entries depth node ++ itemEntries depth rest
  | .element el children => by
    have hchildren : ∀ more : List Item,
        itemEntries (innerDepth depth el)
            ((if Template.isVoid el.tag then [] else printedAll children) ++ more) =
          (if Template.isVoid el.tag then [] else entriesAll (innerDepth depth el) children)
            ++ itemEntries (innerDepth depth el) more := by
      intro more
      split
      · rfl
      · exact itemEntries_printedAll (innerDepth depth el) more children
    rw [printed, List.append_assoc, List.append_assoc, itemEntries_open, hchildren, itemEntries_close, entries]
    rcases Template.isVoid el.tag with _ | _ <;> simp
  | .text value _ => rfl
  | .expression expr _ => rfl
  | .loop item source body _ => by
    rw [printed, List.cons_append, List.cons_append, itemEntries, List.append_assoc, Item.depthAfter,
      itemEntries_printedAll (depth + 1) _ body, entries]
    simp [itemEntries, Item.entry, Item.depthAfter, Writer.loopHeader]
  | .code s => rfl

/-- The items of a forest become its entries. -/
theorem itemEntries_printedAll (depth : Nat) (rest : List Item) :
    (nodes : List Node) →
      itemEntries depth (printedAll nodes ++ rest) = entriesAll depth nodes ++ itemEntries depth rest
  | [] => rfl
  | node :: more => by
    rw [printedAll, List.append_assoc, itemEntries_printed depth _ node,
      itemEntries_printedAll depth rest more, entriesAll, List.append_assoc]

end

end Items

/-! ## The render function -/

/-- Between two pieces of markup that stand next to each other the depth stays. -/
theorem isChain_itemEntries (depth : Nat) (items : List Item) :
    (itemEntries depth items).IsChain fun a b => (a.isMarkup && b.isMarkup) = true → a.depth = b.depth := by
  induction items generalizing depth with
  | nil => exact .nil
  | cons item rest ih =>
    refine List.isChain_cons.mpr ⟨?_, ih _⟩
    intro e he hmarkup
    rcases rest with _ | ⟨next, more⟩
    · exact nomatch he
    · obtain rfl : next.entry (item.depthAfter depth) = e := by simpa [itemEntries] using he
      -- only statements and the starts and ends of functions change the depth, and these are lines
      cases item <;> cases next <;> first | rfl | exact nomatch hmarkup

/-- All entries of a run have the same depth. -/
theorem depth_eq_of_mem_run {es run : List Entry} (hrun : run ∈ markupRuns es)
    (level : es.IsChain fun a b => (a.isMarkup && b.isMarkup) = true → a.depth = b.depth) :
    ∀ a ∈ run, ∀ b ∈ run, a.depth = b.depth := by
  have hinfix : run <:+: es := by
    have := List.infix_of_mem_flatten hrun
    rwa [markupRuns, List.flatten_splitBy] at this
  have hmarkup : run.IsChain fun a b => (a.isMarkup && b.isMarkup) = true := List.isChain_of_mem_splitBy hrun
  have hdepth : run.IsChain fun a b => a.depth = b.depth := by
    have hlevel := List.IsChain.infix level hinfix
    rw [List.isChain_iff_getElem] at hmarkup hlevel ⊢
    exact fun i hi => hlevel i hi (hmarkup i hi)
  have hpair : run.Pairwise fun a b => a.depth = b.depth := by
    have : IsTrans Entry fun a b => a.depth = b.depth := ⟨fun _ _ _ => Eq.trans⟩
    exact List.isChain_iff_pairwise.mp hdepth
  have : Std.Symm fun a b : Entry => a.depth = b.depth := ⟨fun _ _ => Eq.symm⟩
  have hall := List.Pairwise.forall_of_forall (fun a _ => Eq.refl a.depth) hpair
  exact fun a ha b hb => hall ha hb

/-- Without a widget or a loop around it, a forest is written from depth 1 on. -/
theorem itemEntries_printedAll_one (nodes : List Node) : itemEntries 1 (printedAll nodes) = entriesAll 1 nodes := by
  simpa [itemEntries] using @itemEntries_printedAll 1 [] nodes

/-- The body is what the entries of the forest are merged to. -/
theorem body_merged (u : CompileUnit) (nodes : List Node) :
    (generate u nodes).1.body = merged (entriesAll 1 nodes) := by
  have hholds := (Writer.holds_start u).putAll (printedAll nodes)
  rw [List.nil_append, itemEntries_printedAll_one] at hholds
  rw [generate_body, hholds.lines_flush]

/-- **The render function is the merged output of the printer without a buffer**, whatever the compile unit. All
pieces of a run lie at the depth of the line that they become. -/
theorem body_eq_merged (u : CompileUnit) (nodes : List Node) :
    (generate u nodes).1.body = merged (entriesAll 1 nodes) ∧
      ∀ run ∈ markupRuns (entriesAll 1 nodes), ∀ a ∈ run, ∀ b ∈ run, a.depth = b.depth := by
  refine ⟨body_merged u nodes, fun run hrun => depth_eq_of_mem_run hrun ?_⟩
  rw [← itemEntries_printedAll_one]
  exact isChain_itemEntries 1 (printedAll nodes)

end WidgetTemplates.Compile
