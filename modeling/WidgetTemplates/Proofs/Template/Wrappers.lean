import WidgetTemplates.Proofs.Markup.RootAndHead
import WidgetTemplates.Proofs.Text.Occurrences
import WidgetTemplates.Template.Parse

/-!
# Wrappers of a template

Every document has a root element with a head in it, so a template without them gets them from the reader. They are left
out again by opening the elements at the top that wrap others (`openedAll`): their children take their places in order.
Whether this happens is decided by the characters of the template alone, not by its tags: the wrappers stay exactly if
`<html` occurs anywhere, be it in a comment, in a value, in an expression or at the beginning of a longer name
(`wrappers_opened_iff`).
-/

namespace WidgetTemplates

namespace Markup.Document

/-! ## The tokens of a document -/

/-- The tokens that a reader still finds in a text. -/
def tokensFrom (r : Reader) : List Char → List Token
  | [] => r.scanner.finish.output.reverse
  | c :: rest => (r.scanner.step (insideForeign r.builder) c).output.reverse ++ tokensFrom (r.read c) rest

/-- The tokens of a text. A byte order mark in front is dropped. -/
def tokens (source : List Char) : List Token :=
  let source := match source with
    | '\ufeff' :: rest => rest
    | _ => source
  tokensFrom {} (normalizeNewlines source)

/-- What the tokens of one step make of a document. The wish of a start tag goes back to the scanner. -/
def acceptAll (b : Builder) (tokens : List Token) : Builder := { (tokens.forM accept b).2 with content := none }

/-- What a reader makes of a text it makes of the tokens, each step of those that the scanner finds at one character. -/
theorem exists_steps (r : Reader) (source : List Char) :
    ∃ steps : List (List Token), steps.flatten = tokensFrom r source ∧
      (Reader.mk (source.foldl Reader.read r).scanner.finish (source.foldl Reader.read r).builder).deliver.builder =
        steps.foldl acceptAll r.builder := by
  induction source generalizing r with
  | nil => exact ⟨[r.scanner.finish.output.reverse], List.append_nil _, builder_deliver _⟩
  | cons c source ih =>
    obtain ⟨steps, htokens, hbuilder⟩ := ih (r.read c)
    rw [tokensFrom, List.foldl_cons, hbuilder, ← htokens]
    rcases houtput : (r.scanner.step (insideForeign r.builder) c).output with _ | ⟨t, output⟩
    · -- a step without tokens leaves the document alone
      refine ⟨steps, rfl, ?_⟩
      rw [Reader.read, houtput]
      rfl
    · refine ⟨(t :: output).reverse :: steps, rfl, ?_⟩
      rw [Reader.read]
      dsimp only
      rw [houtput, List.isEmpty_cons, if_neg Bool.false_ne_true, builder_deliver]
      dsimp only
      rw [houtput]
      rfl

/-- A document is built from its tokens. -/
theorem parse_eq_of_steps (source : List Char) :
    ∃ steps : List (List Token), steps.flatten = tokens source ∧
      parse source = trees (steps.foldl acceptAll {}).arena ((steps.foldl acceptAll {}).arena.size + 1) 0 := by
  rw [parse.eq_def]
  obtain ⟨steps, htokens, hbuilder⟩ := exists_steps {} (normalizeNewlines (match source with
    | '\ufeff' :: rest => rest
    | _ => source))
  exact ⟨steps, htokens, congrArg (fun b : Builder => trees b.arena (b.arena.size + 1) 0) hbuilder⟩

end Markup.Document

namespace Template

open Markup (Token Tree)

/-! ## Opened wrappers -/

mutual

/-- A markup node at the top with its wrappers opened: the children of each take its place. -/
def opened : Tree → List Tree
  | .element tag attrs children =>
    if wrapperTags.contains tag then openedAll children else [.element tag attrs children]
  | .text value => [.text value]
  | .comment => [.comment]

/-- Several markup nodes at the top with their wrappers opened. -/
def openedAll : List Tree → List Tree
  | [] => []
  | t :: rest => opened t ++ openedAll rest

end

theorem Parsed.append_nil (p : Parsed) : p.append ⟨[], []⟩ = p := by
  simp [Parsed.append]

theorem Parsed.append_assoc (p q r : Parsed) : (p.append q).append r = p.append (q.append r) := by
  simp [Parsed.append]

variable (s : Source)

/-- Markup nodes in a row are converted one after another. -/
theorem convertList_append (ts us : List Tree) :
    convertList s (ts ++ us) = (convertList s ts).append (convertList s us) := by
  induction ts with
  | nil => simp [convertList, Parsed.append]
  | cons t ts ih => rw [List.cons_append, convertList, ih, convertList, Parsed.append_assoc]

theorem convertList_singleton (t : Tree) : convertList s [t] = convert s t := by
  rw [convertList, convertList, Parsed.append_nil]

mutual

/-- Leaving the wrappers out is opening them. -/
theorem convertTop_false : ∀ t : Tree, convertTop s false t = convertList s (opened t)
  | .element tag attrs children => by
    have hhtml : tag = "html" → wrapperTags.contains tag = true := by
      rintro rfl
      decide
    rw [convertTop, opened]
    by_cases hwrapper : wrapperTags.contains tag = true
    · rw [if_pos (by rw [hwrapper]; rfl), if_pos hwrapper, convertTopList_false children]
    · have hne : tag ≠ "html" := fun h => hwrapper (hhtml h)
      rw [if_neg (by rw [Bool.eq_false_iff.mpr hwrapper]; simpa using hne), if_neg hwrapper, convertList_singleton]
  | .text value => by rw [convertTop, opened, convertList_singleton]; exact nofun
  | .comment => by rw [convertTop, opened, convertList_singleton]; exact nofun

/-- Without wrappers markup is converted as what stands in them. -/
theorem convertTopList_false : ∀ ts : List Tree, convertTopList s false ts = convertList s (openedAll ts)
  | [] => rfl
  | t :: ts => by rw [convertTopList, convertTop_false t, convertTopList_false ts, openedAll, convertList_append]

end

mutual

/-- No wrapper stands where the wrappers have been opened. -/
theorem notMem_wrapperTags_of_mem_opened {tag : String} {attrs : List (String × String)} {children : List Tree} :
    ∀ {t : Tree}, .element tag attrs children ∈ opened t → tag ∉ wrapperTags
  | .element tag' attrs' children', h => by
    rw [opened] at h
    split at h
    · exact notMem_wrapperTags_of_mem_openedAll h
    · next hwrapper =>
      cases List.mem_singleton.mp h
      simpa using hwrapper
  | .text value, h => nomatch List.mem_singleton.mp h
  | .comment, h => nomatch List.mem_singleton.mp h

/-- No opened wrapper is left. -/
theorem notMem_wrapperTags_of_mem_openedAll {tag : String} {attrs : List (String × String)} {children : List Tree} :
    ∀ {ts : List Tree}, .element tag attrs children ∈ openedAll ts → tag ∉ wrapperTags
  | [], h => absurd h List.not_mem_nil
  | t :: ts, h => by
    rw [openedAll] at h
    rcases List.mem_append.mp h with h | h
    · exact notMem_wrapperTags_of_mem_opened h
    · exact notMem_wrapperTags_of_mem_openedAll h

end

/-! ## Elements at the top -/

/-- The tag of an element. -/
def Node.tag? : Node → Option String
  | .element el _ => some el.tag
  | _ => none

/-- No node of a text is an element. -/
theorem tag?_of_mem_textNodes {text : List Char} {node : Node} (h : node ∈ s.textNodes text) : node.tag? = none := by
  obtain ⟨piece, -, h⟩ := List.mem_flatMap.mp h
  split at h
  · rw [List.mem_singleton.mp h]
    rfl
  split at h
  · exact absurd h List.not_mem_nil
  · rw [List.mem_singleton.mp h]
    rfl

/-- An element of a template comes from an element of its name. -/
theorem exists_element_of_mem_convert {t : Tree} {node : Node} {tag : String} (h : node ∈ (convert s t).nodes)
    (htag : node.tag? = some tag) : ∃ attrs children, t = .element tag attrs children := by
  rcases t with value | _ | ⟨tag', attrs, children⟩
  · rw [convert] at h
    exact absurd (htag.symm.trans (tag?_of_mem_textNodes s h)) (Option.some_ne_none tag)
  · rw [convert] at h
    exact absurd h List.not_mem_nil
  rw [convert] at h
  split at h
  · dsimp only at h
    split at h
    · exact absurd h List.not_mem_nil
    · rw [List.mem_singleton.mp h] at htag
      cases htag
  · rw [List.mem_singleton.mp h] at htag
    cases htag
    exact ⟨attrs, children, rfl⟩

/-- A node of several markup nodes comes from one of them. -/
theorem mem_nodes_convertList {node : Node} {ts : List Tree} :
    node ∈ (convertList s ts).nodes ↔ ∃ t ∈ ts, node ∈ (convert s t).nodes := by
  induction ts with
  | nil => simp [convertList]
  | cons t ts ih => simp [convertList, Parsed.append, ih]

/-- A node of several markup nodes at the top comes from one of them. -/
theorem mem_nodes_convertTopList {node : Node} {keep : Bool} {ts : List Tree} :
    node ∈ (convertTopList s keep ts).nodes ↔ ∃ t ∈ ts, node ∈ (convertTop s keep t).nodes := by
  induction ts with
  | nil => simp [convertTopList]
  | cons t ts ih => simp [convertTopList, Parsed.append, ih]

/-- Without wrappers no element at the top has the name of one. -/
theorem tag_notMem_of_opened {ts : List Tree} {node : Node} {tag : String}
    (h : node ∈ (convertList s (openedAll ts)).nodes) (htag : node.tag? = some tag) : tag ∉ wrapperTags := by
  obtain ⟨t, ht, hnode⟩ := (mem_nodes_convertList s).mp h
  obtain ⟨attrs, children, rfl⟩ := exists_element_of_mem_convert s hnode htag
  exact notMem_wrapperTags_of_mem_openedAll ht

/-- With wrappers the head is at the top. -/
theorem exists_head_of_kept (source : List Char) :
    ∃ node ∈ (convertTopList s true (Markup.Document.parse source)).nodes, node.tag? = some "head" := by
  obtain ⟨attrs, children, hroot, attrs', children', hhead⟩ := Markup.exists_head_parse source
  have hconvert : ∃ node ∈ (convertTop s true (.element "head" attrs' children')).nodes,
      node.tag? = some "head" := by
    rw [convertTop, if_neg (by decide), convert, if_neg (by simp)]
    exact ⟨_, List.mem_singleton_self _, rfl⟩
  obtain ⟨node, hnode, htag⟩ := hconvert
  refine ⟨node, (mem_nodes_convertTopList s).mpr ⟨_, hroot, ?_⟩, htag⟩
  rw [convertTop, if_pos (by decide)]
  exact (mem_nodes_convertTopList s).mpr ⟨_, hhead, hnode⟩

/-! ## Templates -/

/-- The markup of a template: its expressions are lifted and its tags are expanded. -/
def markupText (source : String) : List Char := markLoops (expandSelfClosing (lift source.toList).1)

/-- The names of the start tags of a template, among the tokens that its document is built from. -/
def startTags (source : String) : List String :=
  (Markup.Document.tokens (markupText source)).filterMap fun
    | .startTag tag => some tag.name
    | _ => none

/-- The node is a wrapper element although the template has no start tag of its name. -/
def IsAdded (source : String) (node : Node) : Prop :=
  ∃ tag ∈ wrapperTags, node.tag? = some tag ∧ tag ∉ startTags source

instance (source : String) (node : Node) : Decidable (IsAdded source node) :=
  inferInstanceAs (Decidable (∃ tag ∈ wrapperTags, _ ∧ _))

/-- No wrapper element is at the top: the nodes are what the wrappers hold, in order. -/
def Unwrapped (source : String) (settings : Settings) : Prop :=
  (∀ node ∈ (parse source settings).nodes, ∀ tag ∈ wrapperTags, node.tag? ≠ some tag) ∧
    (parse source settings).nodes = (convertList ⟨settings, (lift source.toList).2⟩
      (openedAll (Markup.Document.parse (markupText source)))).nodes

/-- The nodes of a template are those of its document. -/
theorem nodes_parse (source : String) (settings : Settings) : (parse source settings).nodes =
    (convertTopList ⟨settings, (lift source.toList).2⟩ (keepsWrappers source.toList)
      (Markup.Document.parse (markupText source))).nodes := by
  rw [parse, markupText]
  rcases lift source.toList with ⟨text, lifted⟩
  exact List.nil_append _

/-- The wrappers of a template are opened exactly if they are not kept. -/
theorem unwrapped_iff (source : String) (settings : Settings) :
    Unwrapped source settings ↔ keepsWrappers source.toList = false := by
  rcases hkeep : keepsWrappers source.toList with _ | _
  · have hnodes := nodes_parse source settings
    rw [hkeep, convertTopList_false] at hnodes
    refine iff_of_true ⟨fun node hnode tag htag heq => ?_, hnodes⟩ rfl
    rw [hnodes] at hnode
    exact tag_notMem_of_opened _ hnode heq htag
  · refine iff_of_false (fun h => ?_) Bool.true_eq_false.mp
    obtain ⟨node, hnode, htag⟩ := exists_head_of_kept ⟨settings, (lift source.toList).2⟩ (markupText source)
    refine h.1 node ?_ "head" (by decide) htag
    rw [nodes_parse, hkeep]
    exact hnode

/-- **The wrappers of a template are opened exactly if `<html` does not occur in it**, in whatever case and wherever:
then no wrapper element is at the top, and what the wrappers hold is there in order. If the template has no `head` start
tag, an element that the reader adds is at the top exactly if those characters do occur. The start tags are those of the
tokens that the document is built from, step by step. -/
theorem wrappers_opened_iff (source : String) (settings : Settings) :
    (Unwrapped source settings ↔ ¬ "<html".toList <:+: Text.lowercase source.toList) ∧
      ("head" ∉ startTags source → ((∃ node ∈ (parse source settings).nodes, IsAdded source node) ↔
        "<html".toList <:+: Text.lowercase source.toList)) ∧
      ∃ steps : List (List Token), steps.flatten = Markup.Document.tokens (markupText source) ∧
        Markup.Document.parse (markupText source) =
          let document := steps.foldl Markup.Document.acceptAll {}
          Markup.Document.trees document.arena (document.arena.size + 1) 0 := by
  have hoccurs : keepsWrappers source.toList = true ↔ "<html".toList <:+: Text.lowercase source.toList :=
    Text.occurs_iff
  have hunwrapped : Unwrapped source settings ↔ ¬ "<html".toList <:+: Text.lowercase source.toList := by
    rw [unwrapped_iff, ← hoccurs, Bool.not_eq_true]
  refine ⟨hunwrapped, fun hhead => ⟨?_, fun hhtml => ?_⟩, Markup.Document.parse_eq_of_steps _⟩
  · rintro ⟨node, hnode, tag, htag, heq, -⟩
    exact Decidable.byContradiction fun hhtml => (hunwrapped.mpr hhtml).1 node hnode tag htag heq
  · obtain ⟨node, hnode, htag⟩ := exists_head_of_kept ⟨settings, (lift source.toList).2⟩ (markupText source)
    refine ⟨node, ?_, "head", by decide, htag, hhead⟩
    rw [nodes_parse, hoccurs.mpr hhtml]
    exact hnode

/-- A template that starts with neither of the tags gets neither of the elements. -/
theorem wrappers_opened_of_paragraph :
    "head" ∉ startTags "<p>a</p>" ∧ ¬ ∃ node ∈ (parse "<p>a</p>" {}).nodes, IsAdded "<p>a</p>" node := by
  have hhead : "head" ∉ startTags "<p>a</p>" := by decide +kernel
  have hhtml : ¬ "<html".toList <:+: Text.lowercase "<p>a</p>".toList := by decide +kernel
  exact ⟨hhead, fun hadded => hhtml (((wrappers_opened_iff "<p>a</p>" {}).2.1 hhead).mp hadded)⟩

/-- In the first template the characters `<html` begin a longer name, and the head and the body that the reader adds
stay. In the others they are in a comment, a value and an expression. None has an `html` start tag. -/
theorem wrappers_kept_of_lookalike :
    "html" ∉ startTags "<html-view></html-view>" ∧
      (parse "<html-view></html-view>" {}).nodes.map Node.tag? = [some "head", some "body"] ∧
      (∀ node ∈ (parse "<html-view></html-view>" {}).nodes, IsAdded "<html-view></html-view>" node) ∧
      ∀ source ∈ ["<!-- <html> --><p></p>", "<p title=\"<html\"></p>", "<p>$\x7b\"<html\"\x7d</p>"],
        "html" ∉ startTags source ∧ (parse source {}).nodes.map Node.tag? = [some "head", some "body"] ∧
          ∀ node ∈ (parse source {}).nodes, IsAdded source node := by
  decide +kernel

end Template

end WidgetTemplates
