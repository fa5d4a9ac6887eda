import WidgetTemplates.Proofs.Script.PrintedExpr
import WidgetTemplates.Proofs.Template.Occurrence
import WidgetTemplates.Proofs.Template.Attributes
import WidgetTemplates.Template.Parse

/-!
# Tidy templates

A template is tidy if every expression in it is: its names are plain and the texts in it are balanced by the answers
that are given for their slashes.

A template that is read from a text holds few kinds of expressions: the texts of template expressions, string
literals, and sums of these (`Expr.IsRead`). Nothing has been put around its elements yet, and the items of its loops
have plain names. So it is tidy as soon as its expression texts are balanced (`tidyForest_parse`).
-/

namespace WidgetTemplates

open Script (Expr PlainName Slash Stmt)

variable {answers : String → List Slash}

namespace Script.Expr

/-- The texts in an expression. -/
def texts (e : Expr) : List String :=
  e.parts.filterMap fun
    | .raw code => some code
    | _ => none

/-- The texts of an expression are its parts that are texts. -/
theorem mem_texts {e : Expr} {code : String} : code ∈ e.texts ↔ .raw code ∈ e.parts := by
  rw [texts, List.mem_filterMap]
  constructor
  · rintro ⟨part, hpart, htext⟩
    cases part <;> simp_all
  · exact fun h => ⟨_, h, rfl⟩

/-- An expression as it is read from a template: texts, string literals and sums. -/
def IsRead (e : Expr) : Prop := ∀ part ∈ e.parts, match part with
  | .raw _ | .str _ | .concat _ => True
  | _ => False

theorem isRead_raw (code : String) : (raw code).IsRead := by
  simp [IsRead, parts]

theorem isRead_str (value : String) : (str value).IsRead := by
  simp [IsRead, parts]

/-- A sum of expressions as they are read is as it is read. -/
theorem isRead_concat {operands : List Expr} (h : ∀ e ∈ operands, e.IsRead) : (concat operands).IsRead := by
  have hall : ∀ items : List Expr, (∀ e ∈ items, e.IsRead) → ∀ part ∈ partsAll items, match part with
      | .raw _ | .str _ | .concat _ => True
      | _ => False := by
    intro items
    induction items with
    | nil => exact fun _ => nofun
    | cons e rest ih =>
      intro hitems
      rw [List.forall_mem_cons] at hitems
      exact List.forall_mem_append.mpr ⟨hitems.1, ih hitems.2⟩
  exact List.forall_mem_cons.mpr ⟨trivial, hall operands h⟩

/-- An expression as it is read is tidy as soon as its texts are balanced. -/
theorem IsRead.tidy {e : Expr} (h : e.IsRead) (balanced : ∀ code ∈ e.texts, Answered answers code) :
    e.Tidy answers := by
  intro part hpart
  have hread := h part hpart
  cases part with
  | raw code => exact balanced code (mem_texts.mpr hpart)
  | str => trivial
  | concat => trivial
  | _ => exact hread.elim

end Script.Expr

namespace Template

/-! ## Tidy templates -/

/-- The attribute values of an element, the statements around it and its widget are tidy. -/
structure Element.Tidy (answers : String → List Slash) (el : Element) : Prop where
  attributes : ∀ a ∈ el.attributes, ∀ e ∈ a.value, e.Tidy answers
  before : ∀ stmt ∈ el.before, stmt.Tidy answers
  after : ∀ stmt ∈ el.after, stmt.Tidy answers
  widget : ∀ b ∈ el.widget, b.helper.Tidy answers ∧ b.widgetType.Tidy answers

/-- What a node itself carries is tidy. -/
def Node.Tidy (answers : String → List Slash) : Node → Prop
  | .element el _ => el.Tidy answers
  | .text _ _ => True
  | .expression expr _ => expr.Tidy answers
  | .loop item source _ _ => PlainName item ∧ source.Tidy answers
  | .code stmt => stmt.Tidy answers

/-- Every node of a forest is tidy. -/
def TidyForest (answers : String → List Slash) (nodes : List Node) : Prop :=
  Throughout (fun o => o.node.Tidy answers) [] nodes

theorem tidyForest_element {el : Element} {children rest : List Node} :
    TidyForest answers (.element el children :: rest) ↔
      el.Tidy answers ∧ TidyForest answers children ∧ TidyForest answers rest :=
  everywhere_element

theorem tidyForest_loop {item : String} {source : Expr} {body rest : List Node} {location : Location} :
    TidyForest answers (.loop item source body location :: rest) ↔
      (PlainName item ∧ source.Tidy answers) ∧ TidyForest answers body ∧ TidyForest answers rest :=
  everywhere_loop

/-! ## Expression texts -/

/-- The expression texts of a node. -/
def Node.texts (node : Node) : List String := node.exprs.flatMap Expr.texts

/-- The expression texts of a template in document order. -/
def expressionTexts (nodes : List Node) : List String := (occurrencesAll [] nodes).flatMap fun o => o.node.texts

/-- A node as it is read from a template: nothing has been put around it, its expressions are as they are read, and if
it is a loop its items have a plain name. -/
structure Node.IsRead (node : Node) : Prop where
  fresh : node.isFresh
  exprs : ∀ e ∈ node.exprs, e.IsRead
  items : ∀ item, node.namesItems item → PlainName item

/-- A node as it is read is tidy as soon as its expression texts are balanced. -/
theorem Node.IsRead.tidy {node : Node} (h : node.IsRead) (balanced : ∀ code ∈ node.texts, Expr.Answered answers code) :
    node.Tidy answers := by
  have hexprs : ∀ e ∈ node.exprs, e.Tidy answers := fun e he =>
    (h.exprs e he).tidy fun code hcode => balanced code (List.mem_flatMap.mpr ⟨e, he, hcode⟩)
  cases node with
  | element el children =>
    obtain ⟨hbefore, hafter, hwidget⟩ := h.fresh
    refine ⟨?_, by simp [hbefore], by simp [hafter], by simp [hwidget]⟩
    intro a ha e he
    exact hexprs e (List.mem_append_right _ (List.mem_filterMap.mpr ⟨a, ha, he⟩))
  | text => trivial
  | expression expr => exact hexprs expr List.mem_cons_self
  | loop item source => exact ⟨h.items item rfl, hexprs source List.mem_cons_self⟩
  | code => exact h.fresh.elim

/-! ## Reading -/

/-- Every node of a forest is as it is read. -/
def ReadForest (nodes : List Node) : Prop := Throughout (fun o => o.node.IsRead) [] nodes

theorem readForest_nil : ReadForest [] := throughout_nil

/-- Two forests as they are read are so together. -/
theorem ReadForest.append {nodes more : List Node} (h : ReadForest nodes) (h' : ReadForest more) :
    ReadForest (nodes ++ more) :=
  throughout_append.mpr ⟨h, h'⟩

/-- A node that is an expression as it is read is as it is read. -/
theorem isRead_expression {e : Expr} {location : Location} (h : e.IsRead) : (Node.expression e location).IsRead :=
  ⟨trivial, List.forall_mem_singleton.mpr h, nofun⟩

namespace Source

variable {s : Source}

/-- The expression that a piece stands for, or its literal text. -/
theorem isRead_attributeValue (value : List Char) : ∀ e ∈ s.attributeValue value, e.IsRead := by
  intro e he
  rw [attributeValue] at he
  generalize hall : (split value).map _ = parts at he
  have hparts : ∀ e ∈ parts, e.IsRead := by
    rw [← hall]
    refine List.forall_mem_map.mpr fun piece _ => ?_
    split
    · exact Script.Expr.isRead_raw _
    · exact Script.Expr.isRead_str _
  split at he
  · cases he
  · split at he
    · next part =>
      obtain rfl := Option.some.inj he
      exact hparts part List.mem_cons_self
    · obtain rfl := Option.some.inj he
      exact Script.Expr.isRead_concat hparts

/-- The nodes of a text are as they are read. -/
theorem readForest_textNodes (text : List Char) : ReadForest (s.textNodes text) := by
  rw [textNodes]
  induction split text with
  | nil => exact readForest_nil
  | cons piece rest ih =>
    rw [List.flatMap_cons]
    refine ReadForest.append ?_ ih
    split
    · exact throughout_expression.mpr ⟨isRead_expression (Script.Expr.isRead_raw _), throughout_nil⟩
    · split
      · exact readForest_nil
      · exact throughout_text.mpr ⟨⟨trivial, nofun, nofun⟩, throughout_nil⟩

end Source

/-- The item of a loop header has a plain name. -/
theorem plainName_loopHeader? {header item source : List Char} (h : loopHeader? header = some (item, source)) :
    PlainName (String.ofList item) := by
  have hitem : item = (Text.trimStart header).takeWhile isItemChar := by
    rw [loopHeader?] at h
    split at h
    · exact nomatch h
    · split at h
      · obtain ⟨_, -, hpair⟩ := Option.map_eq_some_iff.mp h
        exact (Prod.mk.inj hpair).1.symm
      · exact nomatch h
  intro c hc
  rw [String.toList_ofList, hitem] at hc
  have hchar := List.all_eq_true.mp List.all_takeWhile c hc
  simp only [isItemChar, Bool.or_eq_true, beq_iff_eq] at hchar
  rcases hchar with (halpha | rfl) | rfl
  · exact Script.isPlain_of_isAlphanum halpha
  · rfl
  · rfl

mutual

/-- The nodes of a markup node are as they are read. -/
theorem readForest_convert (s : Source) : (t : Markup.Tree) → ReadForest (convert s t).nodes
  | .text value => s.readForest_textNodes value.toList
  | .comment => readForest_nil
  | .element tag attrs children => by
    have hchildren := readForest_convertList s children
    rw [convert]
    split
    · dsimp only
      split
      · exact readForest_nil
      · next item source hheader =>
        have hnode : ∀ body, (Node.loop (String.ofList item)
            (Expr.ofText (String.ofList (unwrapSource source))) body .start).IsRead := fun body =>
          ⟨trivial, List.forall_mem_singleton.mpr (Script.Expr.isRead_raw _),
            fun _ hname => hname ▸ plainName_loopHeader? hheader⟩
        exact throughout_loop.mpr ⟨hnode _, (throughout_above _ _).mp hchildren, throughout_nil⟩
    · refine throughout_element.mpr ⟨⟨⟨rfl, rfl, rfl⟩, ?_, nofun⟩, (throughout_above _ _).mp hchildren, throughout_nil⟩
      intro e he
      obtain ⟨a, ha, hvalue⟩ := List.mem_filterMap.mp (show e ∈ List.filterMap _ _ from he)
      obtain ⟨⟨name, value⟩, -, rfl⟩ := List.mem_map.mp ha
      exact s.isRead_attributeValue value.toList e hvalue

/-- The nodes of several markup nodes are as they are read. -/
theorem readForest_convertList (s : Source) : (ts : List Markup.Tree) → ReadForest (convertList s ts).nodes
  | [] => readForest_nil
  | t :: rest => (readForest_convert s t).append (readForest_convertList s rest)

end

mutual

/-- The nodes of a markup node at the top are as they are read. -/
theorem readForest_convertTop (s : Source) (keepWrappers : Bool) :
    (t : Markup.Tree) → ReadForest (convertTop s keepWrappers t).nodes
  | .text value => readForest_convert s (.text value)
  | .comment => readForest_convert s .comment
  | .element tag attrs children => by
    rw [convertTop]
    split
    · exact readForest_convertTopList s keepWrappers children
    · exact readForest_convert s (.element tag attrs children)

/-- The nodes of several markup nodes at the top are as they are read. -/
theorem readForest_convertTopList (s : Source) (keepWrappers : Bool) :
    (ts : List Markup.Tree) → ReadForest (convertTopList s keepWrappers ts).nodes
  | [] => readForest_nil
  | t :: rest => (readForest_convertTop s keepWrappers t).append (readForest_convertTopList s keepWrappers rest)

end

/-- A template that is read from a text consists of nodes as they are read. -/
theorem readForest_parse (source : String) (settings : Settings) : ReadForest (parse source settings).nodes := by
  dsimp only [parse, Parsed.append, List.nil_append]
  exact readForest_convertTopList _ _ _

/-- **A template is tidy as soon as its expression texts are balanced.** -/
theorem tidyForest_parse {source : String} {settings : Settings}
    (balanced : ∀ code ∈ expressionTexts (parse source settings).nodes, Expr.Answered answers code) :
    TidyForest answers (parse source settings).nodes := by
  intro o ho
  refine (readForest_parse source settings o ho).tidy fun code hcode => balanced code ?_
  exact List.mem_flatMap.mpr ⟨o, ho, hcode⟩

end Template

end WidgetTemplates
