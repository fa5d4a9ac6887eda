import Mathlib.Algebra.Ring.Nat
import Mathlib.Data.List.Flatten
import WidgetTemplates.Proofs.Template.PutBack
import WidgetTemplates.Proofs.Text.Blank
import WidgetTemplates.Template.Parse

/-!
# The nodes of a text

A text is cut at its placeholders (`Cut`), and each piece becomes a node on its own. Read back in order, the nodes
spell the text without its blank pieces (`spelled_textNodes`): a piece that stands for no expression is left out as soon
as all its characters are blank, not only when it is the whole text. So the text is spelled exactly if it has no such
piece, while it has no nodes at all exactly if it is blank from end to end (`text_kept_iff`). Blank means Unicode white
space, so a piece of no-break spaces is left out as well.
-/

namespace WidgetTemplates.Template

open Script (Expr)

/-! ## Cutting -/

/-- The pieces of a text behind characters gathered already, latest first. Text in which nothing is cut out is gathered,
and a placeholder is a piece behind what has been gathered. -/
inductive Cut : List Char → List Char → List Piece → Prop
  | nil {pending : List Char} : Cut pending [] (gathered pending)
  | literal {pending text rest : List Char} {pieces : List Piece} (after : Cut (text.reverse ++ pending) rest pieces) :
    Cut pending (text ++ rest) pieces
  | placeholder {pending digits text rest : List Char} {index : Nat} {pieces : List Piece}
    (shaped : Shaped digits text) (word : wordOfDigits? digits = some index) (after : Cut [] rest pieces) :
    Cut pending (text ++ rest) (gathered pending ++ .placeholder index text :: pieces)

/-- Splitting cuts a text. -/
theorem cut_splitFrom (pending s : List Char) : Cut pending s (splitFrom pending .looking s) := by
  induction hlen : s.length using Nat.strongRecOn generalizing pending s with
  | ind n ih =>
    rcases hdigits : placeholderDigits? s with _ | digits
    · rcases s with _ | ⟨c, rest⟩
      · exact .nil
      · rw [splitFrom_cons hdigits]
        exact Cut.literal (ih rest.length (by simp at hlen; omega) ([c].reverse ++ pending) rest rfl)
    · obtain ⟨text, rest, hshaped, rfl⟩ := placeholderDigits?_eq_some_iff.mp hdigits
      have hafter : ∀ pending, Cut pending rest (splitFrom pending .looking rest) := by
        obtain ⟨inside, rfl⟩ := hshaped.exists_cons
        exact fun pending => ih rest.length (by simp at hlen; omega) pending rest rfl
      rw [splitFrom_shaped hshaped]
      split
      · exact .literal (hafter _)
      · next index hword => exact .placeholder hshaped hword (hafter [])

/-- A text is cut into its pieces. -/
theorem cut_split (text : List Char) : Cut [] text (split text) := cut_splitFrom [] text

/-- What a piece of a text is: characters, or a placeholder with the number that its digits write. -/
inductive Piece.Proper : Piece → Prop
  | literal {text : List Char} (ne_nil : text ≠ []) : Proper (.literal text)
  | placeholder {digits text : List Char} {index : Nat} (shaped : Shaped digits text)
    (word : wordOfDigits? digits = some index) : Proper (.placeholder index text)

namespace Cut

variable {pending s : List Char} {pieces : List Piece}

/-- Gathered characters are the text of their piece. -/
theorem flatMap_text_gathered (pending : List Char) : (gathered pending).flatMap Piece.text = pending.reverse := by
  rcases pending with _ | ⟨c, more⟩ <;> simp [gathered, Piece.text]

/-- A piece of gathered characters is proper. -/
theorem proper_of_mem_gathered {p : Piece} (h : p ∈ gathered pending) : p.Proper := by
  rcases pending with _ | ⟨c, more⟩
  · cases h
  · obtain rfl := List.mem_singleton.mp h
    exact .literal (by simp)

/-- The pieces are the text, with what was gathered in front. -/
theorem flatMap_text (h : Cut pending s pieces) : pieces.flatMap Piece.text = pending.reverse ++ s := by
  induction h with
  | nil => simp [flatMap_text_gathered]
  | literal _ ih => simp [ih]
  | placeholder _ _ _ ih => simp [flatMap_text_gathered, ih, Piece.text]

/-- The pieces that a text is cut into are proper. -/
theorem proper_of_mem (h : Cut pending s pieces) {p : Piece} (hp : p ∈ pieces) : p.Proper := by
  induction h with
  | nil => exact proper_of_mem_gathered hp
  | literal _ ih => exact ih hp
  | placeholder shaped word _ ih =>
    rcases List.mem_append.mp hp with hp | hp
    · exact proper_of_mem_gathered hp
    · rcases List.mem_cons.mp hp with rfl | hp
      · exact .placeholder shaped word
      · exact ih hp

end Cut

/-- The pieces of a text make it up. -/
theorem flatMap_text_split (text : List Char) : (split text).flatMap Piece.text = text := (cut_split text).flatMap_text

/-- The pieces of a text are proper. -/
theorem proper_of_mem_split {text : List Char} {p : Piece} (h : p ∈ split text) : p.Proper :=
  (cut_split text).proper_of_mem h

/-- A proper piece is not empty. -/
theorem Piece.Proper.text_ne_nil {p : Piece} (h : p.Proper) : p.text ≠ [] := by
  cases h with
  | literal ne_nil => exact ne_nil
  | placeholder shaped _ =>
    obtain ⟨_, rfl⟩ := shaped.exists_cons
    exact List.cons_ne_nil _ _

/-! ## Spelling -/

/-- A placeholder has no blanks in it. -/
theorem Shaped.countP_isBlank {digits text : List Char} (h : Shaped digits text) : text.countP Text.isBlank = 0 := by
  rw [h.text_eq, List.countP_append, List.countP_append]
  have hdigits : digits.countP Text.isBlank = 0 :=
    List.countP_eq_zero.mpr fun c hc => by simp [Text.isBlank_eq_false_of_isDigit (h.isDigit c hc)]
  rw [hdigits]
  decide

namespace Source

variable {s : Source} {p : Piece} {node : Node} {nodes : List Node} {text : List Char}

/-- The text that a node is read back as: a text as it is, an expression as any placeholder whose number it has. -/
inductive Spells (s : Source) : Node → List Char → Prop
  | text (value : String) : Spells s (.text value .start) value.toList
  | expression {digits text : List Char} {index : Nat} {e : Lifted} (shaped : Shaped digits text)
    (word : wordOfDigits? digits = some index) (lifted : s.lifted[index]? = some e) :
    Spells s (.expression (Expr.ofText (String.ofList e.code)) e.location) text

/-- The nodes, read in order, are the text. -/
def Spelled (s : Source) (nodes : List Node) (text : List Char) : Prop :=
  ∃ texts, List.Forall₂ s.Spells nodes texts ∧ texts.flatten = text

theorem spelled_nil : s.Spelled [] [] := ⟨[], .nil, rfl⟩

/-- A node and those behind it spell their texts in a row. -/
theorem Spells.cons {front : List Char} (h : s.Spells node front) (rest : s.Spelled nodes text) :
    s.Spelled (node :: nodes) (front ++ text) := by
  obtain ⟨texts, hall, rfl⟩ := rest
  exact ⟨front :: texts, .cons h hall, rfl⟩

/-- The blanks of a literal text; none are counted in an expression. -/
def literalBlanks : Node → Nat
  | .text value _ => value.toList.countP Text.isBlank
  | _ => 0

/-- A node spells as many blanks as it has in literal text. -/
theorem Spells.countP_isBlank (h : s.Spells node text) : text.countP Text.isBlank = literalBlanks node := by
  cases h with
  | text value => rfl
  | expression shaped _ _ => exact shaped.countP_isBlank

/-- What nodes are read back as may differ in the length of placeholders, but not in the blanks. -/
theorem Spelled.countP_isBlank (h : s.Spelled nodes text) :
    text.countP Text.isBlank = (nodes.map literalBlanks).sum := by
  obtain ⟨texts, hall, rfl⟩ := h
  induction hall with
  | nil => rfl
  | cons hspells _ ih =>
    rw [List.flatten_cons, List.countP_append, hspells.countP_isBlank, ih, List.map_cons, List.sum_cons]

/-! ## The pieces that are left out -/

/-- Whether a piece stands for no expression and has nothing but blanks in it. -/
def isLeftOut (s : Source) (p : Piece) : Bool := (s.expression? p).isNone && p.text.all Text.isBlank

/-- A literal piece is left out exactly if it is blank. -/
theorem isLeftOut_literal (s : Source) (text : List Char) : s.isLeftOut (.literal text) = text.all Text.isBlank := rfl

/-- The nodes of a piece. -/
def pieceNodes (s : Source) (p : Piece) : List Node :=
  match s.expression? p with
  | some e => [.expression (Expr.ofText (String.ofList e.code)) e.location]
  | none => if (Text.trim p.text).isEmpty then [] else [.text (String.ofList p.text) .start]

/-- The nodes of a text are those of its pieces. -/
theorem textNodes_eq (s : Source) (text : List Char) : s.textNodes text = (split text).flatMap s.pieceNodes := rfl

/-- A piece that is left out has no node. -/
theorem pieceNodes_of_isLeftOut (h : s.isLeftOut p = true) : s.pieceNodes p = [] := by
  obtain ⟨hnone, hblank⟩ := Bool.and_eq_true_iff.mp h
  rw [pieceNodes, Option.isNone_iff_eq_none.mp hnone]
  exact if_pos (List.isEmpty_iff.mpr (Text.trim_eq_nil_iff.mpr (List.all_eq_true.mp hblank)))

/-- A piece that is not left out becomes one node, which is read back as the piece. -/
theorem exists_spells (proper : p.Proper) (h : s.isLeftOut p = false) :
    ∃ node, s.pieceNodes p = [node] ∧ s.Spells node p.text := by
  rw [pieceNodes]
  rcases hexpression : s.expression? p with _ | e
  · have hblank : ¬ (Text.trim p.text).isEmpty = true := by
      rw [List.isEmpty_iff, Text.trim_eq_nil_iff, ← List.all_eq_true]
      simpa [isLeftOut, hexpression] using h
    refine ⟨_, if_neg hblank, ?_⟩
    have hspells := Spells.text (s := s) (String.ofList p.text)
    rwa [String.toList_ofList] at hspells
  · cases proper with
    | literal _ => cases hexpression
    | placeholder shaped word => exact ⟨_, rfl, .expression shaped word hexpression⟩

/-- A proper piece has no node exactly if it is left out. -/
theorem pieceNodes_eq_nil_iff (proper : p.Proper) : s.pieceNodes p = [] ↔ s.isLeftOut p = true := by
  refine ⟨fun h => ?_, pieceNodes_of_isLeftOut⟩
  rw [← Bool.not_eq_false]
  intro hkept
  obtain ⟨node, hnode, -⟩ := exists_spells proper hkept
  exact absurd (h.symm.trans hnode) nofun

/-- Blanks are lost where a piece of nothing but blanks is left out. -/
theorem not_isLeftOut_of_countP_eq {pieces : List Piece} (proper : ∀ p ∈ pieces, p.Proper)
    (h : (pieces.flatMap Piece.text).countP Text.isBlank =
      ((pieces.filter (!s.isLeftOut ·)).flatMap Piece.text).countP Text.isBlank) :
    ∀ p ∈ pieces, s.isLeftOut p = false := by
  induction pieces with
  | nil => simp
  | cons p pieces ih =>
    have hrest := fun h => ih (fun q hq => proper q (List.mem_cons_of_mem _ hq)) h
    rw [List.flatMap_cons, List.countP_append] at h
    rcases hout : s.isLeftOut p
    · rw [List.filter_cons_of_pos (by simp [hout]), List.flatMap_cons, List.countP_append] at h
      exact List.forall_mem_cons.mpr ⟨hout, hrest (Nat.add_left_cancel h)⟩
    · exfalso
      rw [List.filter_cons_of_neg (by simp [hout])] at h
      have hblank : p.text.countP Text.isBlank = p.text.length :=
        List.countP_eq_length.mpr (List.all_eq_true.mp (Bool.and_eq_true_iff.mp hout).2)
      have hpos := List.length_pos_iff.mpr (proper p List.mem_cons_self).text_ne_nil
      have hle : ((pieces.filter (!s.isLeftOut ·)).flatMap Piece.text).countP Text.isBlank ≤
          (pieces.flatMap Piece.text).countP Text.isBlank :=
        (List.filter_sublist.flatMap _).countP_le
      omega

/-! ## The nodes of a text -/

/-- The nodes of a text spell it without the pieces that are left out. -/
theorem spelled_textNodes (s : Source) (text : List Char) :
    s.Spelled (s.textNodes text) (((split text).filter (!s.isLeftOut ·)).flatMap Piece.text) := by
  have hpieces : ∀ pieces : List Piece, (∀ p ∈ pieces, p.Proper) →
      s.Spelled (pieces.flatMap s.pieceNodes) ((pieces.filter (!s.isLeftOut ·)).flatMap Piece.text) := by
    intro pieces proper
    induction pieces with
    | nil => exact spelled_nil
    | cons p pieces ih =>
      have hrest := ih fun q hq => proper q (List.mem_cons_of_mem _ hq)
      rw [List.flatMap_cons]
      rcases hout : s.isLeftOut p
      · obtain ⟨node, hnode, hspells⟩ := exists_spells (proper p List.mem_cons_self) hout
        rw [hnode, List.filter_cons_of_pos (by simp [hout])]
        exact hspells.cons hrest
      · rw [pieceNodes_of_isLeftOut hout, List.filter_cons_of_neg (by simp [hout])]
        exact hrest
  exact hpieces _ fun p hp => proper_of_mem_split hp

/-- The nodes of a text spell it exactly if no piece is left out. -/
theorem spelled_textNodes_iff (s : Source) (text : List Char) :
    s.Spelled (s.textNodes text) text ↔ ∀ p ∈ split text, s.isLeftOut p = false := by
  have hkept := spelled_textNodes s text
  constructor
  · intro hall
    refine not_isLeftOut_of_countP_eq (fun p hp => proper_of_mem_split hp) ?_
    rw [flatMap_text_split, hall.countP_isBlank, hkept.countP_isBlank]
  · intro hnone
    rwa [List.filter_eq_self.mpr fun p hp => by simp [hnone p hp], flatMap_text_split] at hkept

/-- A text has no nodes exactly if everything in it is blank. -/
theorem textNodes_eq_nil_iff (s : Source) (text : List Char) :
    s.textNodes text = [] ↔ ∀ c ∈ text, Text.isBlank c = true := by
  rw [textNodes_eq, List.flatMap_eq_nil_iff]
  constructor
  · intro h c hc
    rw [← flatMap_text_split text] at hc
    obtain ⟨p, hp, hmem⟩ := List.mem_flatMap.mp hc
    have hout := (pieceNodes_eq_nil_iff (proper_of_mem_split hp)).mp (h p hp)
    exact List.all_eq_true.mp (Bool.and_eq_true_iff.mp hout).2 c hmem
  · intro h p hp
    rw [pieceNodes_eq_nil_iff (proper_of_mem_split hp)]
    have hblank : ∀ c ∈ p.text, Text.isBlank c = true := by
      intro c hc
      apply h
      rw [← flatMap_text_split text]
      exact List.mem_flatMap.mpr ⟨p, hp, hc⟩
    cases proper_of_mem_split hp with
    | literal _ => exact List.all_eq_true.mpr hblank
    | placeholder shaped _ =>
      obtain ⟨_, rfl⟩ := shaped.exists_cons
      exact absurd (hblank '_' List.mem_cons_self) (by decide)

/-- **Blank pieces are lost.** The nodes of a text, read in order, are the text exactly if every piece that stands for
no expression has a character that is not blank. In any case they are the text without the pieces that have none, and
there are no nodes at all only for a text without such a character. -/
theorem text_kept_iff (s : Source) (text : List Char) :
    (s.Spelled (s.textNodes text) text ↔
        ∀ p ∈ split text, s.expression? p = none → ∃ c ∈ p.text, Text.isBlank c = false) ∧
      s.Spelled (s.textNodes text) (((split text).filter (!s.isLeftOut ·)).flatMap Piece.text) ∧
      (split text).flatMap Piece.text = text ∧
      (s.textNodes text = [] ↔ ∀ c ∈ text, Text.isBlank c = true) := by
  have hpiece : ∀ p : Piece, s.isLeftOut p = false ↔
      (s.expression? p = none → ∃ c ∈ p.text, Text.isBlank c = false) := by
    intro p
    rcases hexpression : s.expression? p <;> simp [isLeftOut, hexpression]
  refine ⟨?_, spelled_textNodes s text, flatMap_text_split text, textNodes_eq_nil_iff s text⟩
  rw [spelled_textNodes_iff]
  exact forall₂_congr fun p _ => hpiece p

/-- The blank between two expressions is lost. -/
theorem not_spelled_of_blank_between :
    let s : Source := ⟨{}, (lift "$\x7ba\x7d $\x7bb\x7d".toList).2⟩
    let text := (lift "$\x7ba\x7d $\x7bb\x7d".toList).1
    (∃ p ∈ split text, (s.expression? p).isSome = true) ∧ ¬ s.Spelled (s.textNodes text) text := by
  intro s text
  have hpieces : split text =
      [.placeholder 0 (placeholder 0), .literal [' '], .placeholder 1 (placeholder 1)] := by decide +kernel
  rw [spelled_textNodes_iff, hpieces]
  refine ⟨⟨.placeholder 0 (placeholder 0), by simp, by decide +kernel⟩, fun hkept => ?_⟩
  have hblank := hkept (.literal [' ']) (by simp)
  rw [isLeftOut_literal] at hblank
  exact absurd hblank (by decide)

/-- A text that is a no-break space has no nodes. -/
example : Source.textNodes ⟨{}, []⟩ ['\u00A0'] = [] := by
  rw [textNodes_eq_nil_iff, List.forall_mem_singleton]
  rfl

end Source

end WidgetTemplates.Template
