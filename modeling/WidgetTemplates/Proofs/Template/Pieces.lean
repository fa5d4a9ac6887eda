import Mathlib.Data.List.Chain
import WidgetTemplates.Proofs.Template.LoopSource
import WidgetTemplates.Proofs.Template.MixedValue

/-!
# The pieces of a text

A text is cut at its placeholders from left to right. Each piece that has the shape of a placeholder is cut out if its
digits are read as a number, and otherwise it joins the literal text around it (`split_cons`, `split_shaped`). So the
pieces make up the text, none is empty, and literal pieces do not touch (`split_lossless`).
-/

namespace WidgetTemplates.Template

open Script (Expr)

/-! ## Numbers -/

/-- The digits of a number that a 64-bit word holds are ASCII digits, and it is written by them in decimal. -/
theorem wordOfDigits?_eq_some_iff {digits : List Char} {n : Nat} :
    wordOfDigits? digits = some n ↔
      (∀ c ∈ digits, c.isDigit = true) ∧ Nat.ofDigitChars 10 digits 0 = n ∧ n < 2 ^ 64 := by
  have hvalue : digits.foldl (fun n c => n * 10 + (c.toNat - '0'.toNat)) 0 = Nat.ofDigitChars 10 digits 0 := by
    simp only [Nat.ofDigitChars, Nat.mul_comm]
  rw [wordOfDigits?, hvalue]
  constructor
  · intro h
    obtain ⟨hdigits, h⟩ := Option.ite_none_right_eq_some.mp h
    obtain ⟨hsmall, h⟩ := Option.ite_none_right_eq_some.mp h
    obtain rfl := Option.some.inj h
    exact ⟨List.all_eq_true.mp hdigits, rfl, hsmall⟩
  · rintro ⟨hdigits, rfl, hsmall⟩
    rw [if_pos (List.all_eq_true.mpr hdigits)]
    exact if_pos hsmall

/-! ## Joining literal text -/

/-- Pieces with literal text put in front: it joins a literal piece that comes first. -/
def joinLiteral (front : List Char) : List Piece → List Piece
  | .literal text :: rest => .literal (front ++ text) :: rest
  | pieces => .literal front :: pieces

/-- Literal texts join one after the other. -/
theorem joinLiteral_append (front more : List Char) (pieces : List Piece) :
    joinLiteral (front ++ more) pieces = joinLiteral front (joinLiteral more pieces) := by
  rcases pieces with _ | ⟨text | ⟨index, text⟩, rest⟩ <;> simp [joinLiteral]

/-! ## From left to right -/

section Split

variable {s : List Char}

/-- The characters gathered so far join the pieces of the text behind them. -/
theorem splitFrom_eq (pending : List Char) (s : List Char) :
    splitFrom pending .looking s = if pending = [] then split s else joinLiteral pending.reverse (split s) := by
  induction s using reading generalizing pending with
  | nil =>
    rcases pending with _ | ⟨c, more⟩
    · rfl
    · simp [split, splitFrom, gathered, joinLiteral]
  | char c rest hnone ih =>
    rw [split, splitFrom_cons hnone, splitFrom_cons hnone, ih, ih [c]]
    rcases pending with _ | ⟨d, more⟩
    · rfl
    · simp [← joinLiteral_append]
  | shape digits text rest shaped ih =>
    obtain ⟨inside, htext⟩ := shaped.exists_cons
    rw [split, splitFrom_shaped shaped, splitFrom_shaped shaped]
    rcases wordOfDigits? digits with _ | index
    · dsimp only
      rw [ih, ih (text.reverse ++ [])]
      rcases pending with _ | ⟨d, more⟩
      · simp [htext]
      · simp [htext, ← joinLiteral_append]
    · rcases pending with _ | ⟨d, more⟩
      · rfl
      · simp [gathered, joinLiteral]

/-- A text without characters has no pieces. -/
theorem split_nil : split [] = [] := rfl

/-- A character at which no placeholder is recognised is literal text. -/
theorem split_cons {c : Char} (h : placeholderDigits? (c :: s) = none) :
    split (c :: s) = joinLiteral [c] (split s) := by
  rw [split, splitFrom_cons h, splitFrom_eq]
  rfl

/-- A placeholder is a piece of its own if its digits are read as a number, and literal text if not. -/
theorem split_shaped {digits text : List Char} (h : Shaped digits text) (rest : List Char) :
    split (text ++ rest) =
      match wordOfDigits? digits with
      | none => joinLiteral text (split rest)
      | some index => .placeholder index text :: split rest := by
  obtain ⟨inside, htext⟩ := h.exists_cons
  rw [split, splitFrom_shaped h]
  rcases wordOfDigits? digits with _ | index
  · dsimp only
    rw [splitFrom_eq, List.append_nil, List.reverse_reverse, if_neg (by simp [htext])]
  · rfl

end Split

/-! ## Literal pieces -/

/-- Whether a piece is literal text. -/
def Piece.isLiteral : Piece → Bool
  | .literal _ => true
  | .placeholder _ _ => false

/-- Of two pieces next to each other one is a placeholder. -/
def LiteralsApart (pieces : List Piece) : Prop := pieces.IsChain fun p q => (p.isLiteral && q.isLiteral) = false

/-- Joining a literal text keeps literal pieces apart. -/
theorem LiteralsApart.joinLiteral {pieces : List Piece} (h : LiteralsApart pieces) (front : List Char) :
    LiteralsApart (joinLiteral front pieces) := by
  rcases pieces with _ | ⟨text | ⟨index, text⟩, rest⟩
  · exact .singleton _
  · -- the first piece has grown and is literal text as before
    rcases rest with _ | ⟨q, rest⟩
    · exact .singleton _
    · exact List.isChain_cons_cons.mpr (List.isChain_cons_cons.mp h)
  · exact List.isChain_cons_cons.mpr ⟨rfl, h⟩

/-- A placeholder keeps literal pieces apart. -/
theorem LiteralsApart.placeholder {pieces : List Piece} (h : LiteralsApart pieces) (index : Nat) (text : List Char) :
    LiteralsApart (.placeholder index text :: pieces) := by
  rcases pieces with _ | ⟨q, rest⟩
  · exact .singleton _
  · exact List.isChain_cons_cons.mpr ⟨rfl, h⟩

/-- The literal pieces of a text do not touch. -/
theorem literalsApart_split (text : List Char) : LiteralsApart (split text) := by
  induction text using reading with
  | nil => exact .nil
  | char c rest hnone ih =>
    rw [split_cons hnone]
    exact ih.joinLiteral [c]
  | shape digits text rest shaped ih =>
    rw [split_shaped shaped]
    split
    · exact ih.joinLiteral text
    · exact ih.placeholder _ text

/-! ## Attribute values -/

/-- Only the empty text has no pieces. -/
theorem split_eq_nil_iff {text : List Char} : split text = [] ↔ text = [] := by
  constructor
  · intro h
    rw [← flatMap_text_split text, h]
    rfl
  · rintro rfl
    exact split_nil

/-- The value of a text that is not empty is the operand of its only piece, or the sum of two operands or more. -/
theorem Source.attributeValue_cases (s : Source) {text : List Char} (nonempty : text ≠ []) :
    (∃ p, split text = [p] ∧ s.attributeValue text = some (s.part p)) ∨
      2 ≤ (split text).length ∧ s.attributeValue text = some (.concat ((split text).map s.part)) := by
  have hempty : text.isEmpty = false := by simpa using nonempty
  rw [attributeValue, hempty]
  rcases hpieces : split text with _ | ⟨p, _ | ⟨q, rest⟩⟩
  · exact absurd (split_eq_nil_iff.mp hpieces) nonempty
  · exact .inl ⟨p, rfl, rfl⟩
  · exact .inr ⟨by simp, rfl⟩

/-- **Cutting a text loses nothing.** The pieces make up the text, none is empty, and of two neighbours one is a
placeholder. Each placeholder is written with ASCII digits of a number below `2 ^ 64`. A text that begins with the shape
of a placeholder begins with this piece, or with it as literal text if its digits are no such number. So the value of
an attribute that is not empty is a single operand, or a sum of at least two. -/
theorem split_lossless (text : List Char) :
    (split text).flatMap Piece.text = text ∧
      (∀ p ∈ split text, p.text ≠ []) ∧
      LiteralsApart (split text) ∧
      (∀ index shape, .placeholder index shape ∈ split text →
        ∃ digits, shape = "__W_EXPR_".toList ++ digits ++ "__".toList ∧ digits ≠ [] ∧
          (∀ c ∈ digits, c.isDigit = true) ∧ Nat.ofDigitChars 10 digits 0 = index ∧ index < 2 ^ 64) ∧
      (∀ digits shape rest, Shaped digits shape → text = shape ++ rest →
        split text = match wordOfDigits? digits with
          | some index => .placeholder index shape :: split rest
          | none => joinLiteral shape (split rest)) ∧
      (text ≠ [] → ∀ s : Source,
        (∃ p, split text = [p] ∧ s.attributeValue text = some (s.part p)) ∨
          2 ≤ (split text).length ∧ s.attributeValue text = some (.concat ((split text).map s.part))) := by
  refine ⟨flatMap_text_split text, fun p hp => (proper_of_mem_split hp).text_ne_nil, literalsApart_split text, ?_, ?_,
    fun nonempty s => s.attributeValue_cases nonempty⟩
  · intro index shape hmem
    cases proper_of_mem_split hmem with
    | placeholder shaped word => exact ⟨_, shaped.text_eq, shaped.ne_nil, wordOfDigits?_eq_some_iff.mp word⟩
  · rintro digits shape rest shaped rfl
    rw [split_shaped shaped]
    cases wordOfDigits? digits <;> rfl

/-- A number that no word holds, and one that is not written in ASCII, belong to the literal text. -/
example : split "a__W_EXPR_18446744073709551616____W_EXPR_٣____W_EXPR_7__".toList =
    [.literal "a__W_EXPR_18446744073709551616____W_EXPR_٣__".toList, .placeholder 7 "__W_EXPR_7__".toList] := by
  decide +kernel

end WidgetTemplates.Template
