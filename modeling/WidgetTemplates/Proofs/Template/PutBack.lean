import Mathlib.Tactic.TFAE
import WidgetTemplates.Proofs.Template.Parts
import WidgetTemplates.Proofs.Text.Decimal
import WidgetTemplates.Template.Placeholder

/-!
# Putting lifted expressions back

Cutting the lifted text at its placeholders and putting the spans back (`readBack`) is meant to undo `lift`. A
placeholder is recognised by its shape alone, so this fails where literal text has that shape, or gets it from the
placeholder next to it. Where the source is read back and where not is exactly `Legible`: reading from left to right,
every shape that is recognised either stands for a span or lies in literal text and names no expression
(`readBack_tfae`).
-/

namespace WidgetTemplates.Template

/-! ## The shape of a placeholder -/

/-- The text has the shape of a placeholder with these digits. -/
structure Shaped (digits text : List Char) : Prop where
  text_eq : text = placeholderStart ++ digits ++ ['_', '_']
  ne_nil : digits ≠ []
  isDigit : ∀ c ∈ digits, Text.isDigit c = true

namespace Shaped

variable {digits text : List Char}

/-- A placeholder has its digits and the characters around them. -/
theorem length_eq (h : Shaped digits text) : text.length = placeholderStart.length + digits.length + 2 := by
  rw [h.text_eq, List.length_append, List.length_append]
  rfl

/-- No `$` stands in a placeholder. -/
theorem dollar_notMem (h : Shaped digits text) : '$' ∉ text := by
  rw [h.text_eq]
  intro hmem
  rcases List.mem_append.mp hmem with hmem | hmem
  · rcases List.mem_append.mp hmem with hmem | hmem
    · exact absurd hmem (by decide)
    · exact absurd (h.isDigit _ hmem) (by decide)
  · exact absurd hmem (by decide)

/-- A placeholder starts with an underscore. -/
theorem exists_cons (h : Shaped digits text) : ∃ rest, text = '_' :: rest := ⟨_, h.text_eq⟩

end Shaped

/-- The digits are found where the shape is at the front. -/
theorem placeholderDigits?_eq_some_iff {s digits : List Char} :
    placeholderDigits? s = some digits ↔ ∃ text rest, Shaped digits text ∧ s = text ++ rest := by
  constructor
  · intro h
    rw [placeholderDigits?] at h
    split at h
    · cases h
    · next rest hrest =>
      obtain ⟨hstart, heq⟩ := Option.ite_none_right_eq_some.mp hrest
      obtain ⟨tail, rfl⟩ := List.isPrefixOf_iff_prefix.mp hstart
      obtain rfl : rest = tail := by simpa using (Option.some.inj heq).symm
      dsimp only at h
      split at h
      · next more hmore =>
        obtain ⟨hne, heq⟩ := Option.ite_none_left_eq_some.mp h
        obtain rfl := Option.some.inj heq
        have hrest := List.take_append_drop (rest.takeWhile Text.isDigit).length rest
        rw [hmore, ← List.prefix_iff_eq_take.mp (List.takeWhile_prefix _)] at hrest
        refine ⟨_, more, ⟨rfl, by simpa using hne, List.all_eq_true.mp List.all_takeWhile⟩, ?_⟩
        rw [List.append_assoc, List.append_assoc]
        exact congrArg _ hrest.symm
      · cases h
  · rintro ⟨text, rest, hshaped, rfl⟩
    have hstart : Text.dropStart? placeholderStart (text ++ rest) = some (digits ++ '_' :: '_' :: rest) := by
      rw [Text.dropStart?, hshaped.text_eq, List.append_assoc, List.append_assoc,
        if_pos (List.isPrefixOf_iff_prefix.mpr (List.prefix_append _ _)), List.drop_left]
      rfl
    have htake : (digits ++ '_' :: '_' :: rest).takeWhile Text.isDigit = digits := by
      rw [List.takeWhile_append_of_pos hshaped.isDigit,
        List.takeWhile_cons_of_neg (by decide), List.append_nil]
    rw [placeholderDigits?, hstart]
    simp [htake, hshaped.ne_nil]

/-! ## The digits of a number -/

/-- A number is read from its digits if it fits 64 bits. -/
theorem wordOfDigits?_toString (n : Nat) :
    wordOfDigits? (toString n).toList = if n < 0x10000000000000000 then some n else none := by
  have hall : (toString n).toList.all Char.isDigit = true :=
    List.all_eq_true.mpr fun _ => Text.isDigit_of_mem_toString
  have hvalue : (toString n).toList.foldl (fun n c => n * 10 + (c.toNat - '0'.toNat)) 0 = n := by
    rw [Nat.toString_eq_repr, Nat.toList_repr]
    simpa [Nat.ofDigitChars, Nat.mul_comm] using Nat.ofDigitChars_ten_toDigits (n := n)
  rw [wordOfDigits?, if_pos hall, hvalue]

/-- The placeholder of a number has the shape of one. -/
theorem shaped_placeholder (n : Nat) : Shaped (toString n).toList (placeholder n) := by
  refine ⟨rfl, ?_, ?_⟩
  · exact Text.toList_toString_ne_nil n
  · intro c hc
    have hdigit := Text.isDigit_of_mem_toString hc
    rw [Char.isDigit, Bool.and_eq_true, decide_eq_true_iff, decide_eq_true_iff] at hdigit
    exact List.any_eq_true.mpr ⟨(0x30, 0x39), List.mem_cons_self, by simpa [UInt32.le_iff_toNat_le] using hdigit⟩

/-! ## Cutting a text -/

/-- The part that a piece stands for; a placeholder that names none of the spans is literal text. -/
def Piece.putBack (spans : List (List Char)) : Piece → List Part
  | .literal text => text.map .char
  | .placeholder index text =>
    match spans[index]? with
    | some span => [.span index span]
    | none => text.map .char

/-- The parts that a text is read as. -/
def readAs (spans : List (List Char)) (text : List Char) : List Part :=
  (split text).flatMap (Piece.putBack spans)

section Cutting

variable {spans : List (List Char)} {pending s : List Char}

/-- Characters that are dropped are passed over. -/
theorem splitFrom_dropping (n : Nat) :
    splitFrom pending (.after .dropping n) s = splitFrom pending .looking (s.drop n) := by
  induction n generalizing s with
  | zero => rfl
  | succ n ih =>
    rcases s with _ | ⟨c, rest⟩
    · rfl
    · exact ih

/-- Characters that are kept join those gathered. -/
theorem splitFrom_keeping (n : Nat) :
    splitFrom pending (.after .keeping n) s = splitFrom ((s.take n).reverse ++ pending) .looking (s.drop n) := by
  induction n generalizing s pending with
  | zero => rfl
  | succ n ih =>
    rcases s with _ | ⟨c, rest⟩
    · rfl
    · rw [List.take_succ_cons, List.reverse_cons, List.append_assoc]
      exact ih

/-- A character at which no placeholder is recognised is gathered. -/
theorem splitFrom_cons {c : Char} (h : placeholderDigits? (c :: s) = none) :
    splitFrom pending .looking (c :: s) = splitFrom (c :: pending) .looking s := by
  rw [splitFrom, h]

/-- A placeholder is cut out if its digits are read as a number, and is gathered otherwise. -/
theorem splitFrom_shaped {digits text : List Char} (h : Shaped digits text) (pending rest : List Char) :
    splitFrom pending .looking (text ++ rest) =
      match wordOfDigits? digits with
      | none => splitFrom (text.reverse ++ pending) .looking rest
      | some index => gathered pending ++ .placeholder index text :: splitFrom [] .looking rest := by
  have hdigits : placeholderDigits? (text ++ rest) = some digits :=
    placeholderDigits?_eq_some_iff.mpr ⟨text, rest, h, rfl⟩
  have hlength := h.length_eq
  obtain ⟨inside, rfl⟩ := h.exists_cons
  have hinside : placeholderStart.length + digits.length + 1 = inside.length := by simpa using hlength.symm
  rw [List.cons_append] at hdigits ⊢
  rw [splitFrom, hdigits]
  dsimp only
  rw [hinside]
  rcases wordOfDigits? digits with _ | index
  · rw [splitFrom_keeping, List.take_left, List.drop_left]
    simp
  · rw [splitFrom_dropping, List.drop_left, List.take_succ_cons, List.take_left]

/-- Characters that have been gathered are put back as they are. -/
theorem flatMap_putBack_gathered : (gathered pending).flatMap (Piece.putBack spans) = pending.reverse.map .char := by
  rcases pending with _ | ⟨c, more⟩
  · rfl
  · simp [gathered, Piece.putBack]

/-- What has been gathered comes first. -/
theorem flatMap_putBack_splitFrom :
    (splitFrom pending .looking s).flatMap (Piece.putBack spans) = pending.reverse.map .char ++ readAs spans s := by
  induction hlen : s.length using Nat.strongRecOn generalizing pending s with
  | ind n ih =>
    rcases hdigits : placeholderDigits? s with _ | digits
    · rcases s with _ | ⟨c, rest⟩
      · simp [readAs, split, splitFrom, flatMap_putBack_gathered]
      · have hrest : ∀ more : List Char, (splitFrom more .looking rest).flatMap (Piece.putBack spans) =
            more.reverse.map .char ++ readAs spans rest :=
          fun more => ih rest.length (by simp at hlen; omega) rfl
        rw [readAs, split, splitFrom_cons hdigits, splitFrom_cons hdigits, hrest, hrest]
        simp
    · obtain ⟨text, rest, hshaped, rfl⟩ := placeholderDigits?_eq_some_iff.mp hdigits
      have hrest : ∀ more : List Char, (splitFrom more .looking rest).flatMap (Piece.putBack spans) =
          more.reverse.map .char ++ readAs spans rest := by
        obtain ⟨inside, rfl⟩ := hshaped.exists_cons
        exact fun more => ih rest.length (by simp at hlen; omega) rfl
      rw [readAs, split, splitFrom_shaped hshaped, splitFrom_shaped hshaped]
      rcases wordOfDigits? digits with _ | index
      · simp [hrest]
      · simp [flatMap_putBack_gathered]

/-- A character at which no placeholder is recognised stays. -/
theorem readAs_cons {c : Char} (h : placeholderDigits? (c :: s) = none) :
    readAs spans (c :: s) = .char c :: readAs spans s := by
  rw [readAs, split, splitFrom_cons h, flatMap_putBack_splitFrom]
  rfl

/-- The span that digits name. -/
def named? (spans : List (List Char)) (digits : List Char) : Option Part :=
  (wordOfDigits? digits).bind fun index => spans[index]?.map (.span index)

/-- A placeholder is read as the span that it names, and as the text that it is if it names none. -/
theorem readAs_shaped {digits text : List Char} (h : Shaped digits text) (rest : List Char) :
    readAs spans (text ++ rest) =
      (match named? spans digits with | some part => [part] | none => text.map .char) ++ readAs spans rest := by
  rw [readAs, split, splitFrom_shaped h]
  rcases hword : wordOfDigits? digits with _ | index
  · simp [flatMap_putBack_splitFrom, named?, hword]
  · simp only [gathered, List.isEmpty_nil, if_true, List.nil_append, List.flatMap_cons, flatMap_putBack_splitFrom,
      named?, hword, Option.bind_some, Piece.putBack]
    rcases spans[index]? with _ | span <;> simp

end Cutting

/-! ## Reading back -/

/-- The parts as which the lifted text of a source is read. -/
def readBack (source : List Char) : List Part := readAs (spans (parts source)) (lift source).1

/-- In the lifted text of the parts, read from left to right, everything recognised as a placeholder is one that was
put there, or is literal text and names none of the `count` expressions. -/
inductive Legible (count : Nat) : List Part → Prop
  | nil : Legible count []
  | char {c : Char} {ps : List Part} :
      (∀ digits text, Shaped digits text → ¬ text <+: c :: ps.flatMap Part.lifted) →
      Legible count ps → Legible count (.char c :: ps)
  | lookalike {digits text : List Char} {ps : List Part} :
      Shaped digits text → (∀ index, wordOfDigits? digits = some index → count ≤ index) →
      Legible count ps → Legible count (text.map .char ++ ps)
  | span {index : Nat} {text : List Char} {ps : List Part} :
      -- a larger number is not read as one
      index < 0x10000000000000000 → Legible count ps → Legible count (.span index text :: ps)

section

variable {all : List (List Char)} {ps : List Part}

/-- The digits of a number name its span, if the number fits 64 bits. -/
theorem named?_toString {index : Nat} {text : List Char} (hget : all[index]? = some text) :
    named? all (toString index).toList =
      if index < 0x10000000000000000 then some (.span index text) else none := by
  rw [named?, wordOfDigits?_toString]
  split
  · simp [hget]
  · rfl

/-- Digits name no span exactly if their number is none of a span. -/
theorem named?_eq_none_iff {digits : List Char} :
    named? all digits = none ↔ ∀ index, wordOfDigits? digits = some index → all.length ≤ index := by
  rw [named?, Option.bind_eq_none_iff]
  simp

/-- Literal text and placeholders that can be told apart are read as what they are. -/
theorem Legible.readAs_eq (h : Legible all.length ps) (numbered : ∀ k text, .span k text ∈ ps → all[k]? = some text) :
    readAs all (ps.flatMap Part.lifted) = ps := by
  induction h with
  | nil => rfl
  | @char c ps apart _ ih =>
    have hnone : placeholderDigits? (c :: ps.flatMap Part.lifted) = none := by
      rw [Option.eq_none_iff_forall_not_mem]
      intro digits hdigits
      obtain ⟨text, rest, hshaped, heq⟩ := placeholderDigits?_eq_some_iff.mp hdigits
      exact apart digits text hshaped ⟨rest, heq.symm⟩
    rw [List.flatMap_cons, Part.lifted, List.singleton_append, readAs_cons hnone]
    rw [ih fun k text hk => numbered k text (List.mem_cons_of_mem _ hk)]
  | @lookalike digits text ps shaped unnamed _ ih =>
    rw [List.flatMap_append, Part.flatMap_lifted_map_char, readAs_shaped shaped, named?_eq_none_iff.mpr unnamed]
    rw [ih fun k text hk => numbered k text (List.mem_append_right _ hk)]
  | @span index text ps small _ ih =>
    rw [List.flatMap_cons, Part.lifted, readAs_shaped (shaped_placeholder index),
      named?_toString (numbered index text List.mem_cons_self), if_pos small]
    rw [ih fun k text hk => numbered k text (List.mem_cons_of_mem _ hk)]
    rfl

/-- A text without `$` at the front of parts is literal text. -/
theorem exists_of_prefix_flatMap_text {text : List Char} (dollar : '$' ∉ text)
    (starts : ∀ k t, .span k t ∈ ps → ∃ rest, t = '$' :: rest) (h : text <+: ps.flatMap Part.text) :
    ∃ more, ps = text.map .char ++ more := by
  induction text generalizing ps with
  | nil => exact ⟨ps, rfl⟩
  | cons c text ih =>
    rcases ps with _ | ⟨d | ⟨k, t⟩, ps⟩
    · simp at h
    · obtain ⟨rfl, hrest⟩ := List.cons_prefix_cons.mp h
      obtain ⟨more, rfl⟩ := ih (fun hmem => dollar (List.mem_cons_of_mem _ hmem))
        (fun k t hk => starts k t (List.mem_cons_of_mem _ hk)) hrest
      exact ⟨more, rfl⟩
    · obtain ⟨rest, rfl⟩ := starts k t List.mem_cons_self
      obtain ⟨rfl, -⟩ := List.cons_prefix_cons.mp h
      exact absurd List.mem_cons_self dollar

/-- Reading the lifted text of the parts gives their text back. -/
def TextBack (all : List (List Char)) (ps : List Part) : Prop :=
  (readAs all (ps.flatMap Part.lifted)).flatMap Part.text = ps.flatMap Part.text

/-- What has the shape of a placeholder and names no span comes back as it is, so it is literal text. -/
theorem TextBack.eq_chars {digits text rest : List Char} (h : TextBack all ps)
    (starts : ∀ k t, .span k t ∈ ps → ∃ rest, t = '$' :: rest) (shaped : Shaped digits text)
    (front : ps.flatMap Part.lifted = text ++ rest) (unnamed : named? all digits = none) :
    ∃ more, ps = text.map .char ++ more ∧ TextBack all more := by
  rw [TextBack, front, readAs_shaped shaped, List.flatMap_append, unnamed, Part.flatMap_text_map_char] at h
  obtain ⟨more, rfl⟩ := exists_of_prefix_flatMap_text shaped.dollar_notMem starts ⟨_, h⟩
  rw [List.flatMap_append, Part.flatMap_lifted_map_char] at front
  obtain rfl : more.flatMap Part.lifted = rest := List.append_cancel_left front
  rw [List.flatMap_append, Part.flatMap_text_map_char] at h
  exact ⟨more, rfl, List.append_cancel_left h⟩

/-- What comes back as a span is one: were it literal text, its `_` would come back as the `$` of the span. -/
theorem TextBack.eq_span {digits text rest : List Char} {part : Part} (h : TextBack all ps)
    (numbered : ∀ k t, .span k t ∈ ps → all[k]? = some t) (starts : ∀ t ∈ all, ∃ rest, t = '$' :: rest)
    (shaped : Shaped digits text) (front : ps.flatMap Part.lifted = text ++ rest)
    (named : named? all digits = some part) :
    ∃ index t more, ps = .span index t :: more ∧ index < 0x10000000000000000 ∧ TextBack all more := by
  rw [TextBack, front, readAs_shaped shaped, List.flatMap_append, named] at h
  obtain ⟨_, htext⟩ := shaped.exists_cons
  rcases ps with _ | ⟨c | ⟨index, t⟩, more⟩
  · rw [htext] at front
    cases front
  -- a literal character here would be both the `_` of the placeholder and the `$` of the span
  · obtain ⟨k, t, hget, rfl⟩ : ∃ k t, all[k]? = some t ∧ .span k t = part := by
      rw [named?, Option.bind_eq_some_iff] at named
      obtain ⟨k, -, hk⟩ := named
      obtain ⟨t, hget, hspan⟩ := Option.map_eq_some_iff.mp hk
      exact ⟨k, t, hget, hspan⟩
    obtain ⟨_, rfl⟩ := starts t (List.mem_of_getElem? hget)
    rw [htext] at front
    obtain ⟨rfl, -⟩ := List.cons.inj front
    exact absurd (List.cons.inj h).1 (by decide)
  -- the span stands there under its own number
  · obtain rfl : (toString index).toList = digits := by
      have hown := placeholderDigits?_eq_some_iff.mpr
        ⟨_, more.flatMap Part.lifted, shaped_placeholder index, rfl⟩
      exact Option.some.inj (hown.symm.trans (placeholderDigits?_eq_some_iff.mpr ⟨text, rest, shaped, front⟩))
    obtain rfl : text = placeholder index := shaped.text_eq
    obtain rfl : more.flatMap Part.lifted = rest := List.append_cancel_left front
    rw [named?_toString (numbered index t List.mem_cons_self)] at named
    obtain ⟨hsmall, hspan⟩ := Option.ite_none_right_eq_some.mp named
    obtain rfl := Option.some.inj hspan
    refine ⟨index, t, more, rfl, hsmall, ?_⟩
    have hrest : t ++ (readAs all (more.flatMap Part.lifted)).flatMap Part.text = t ++ more.flatMap Part.text := by
      simpa [Part.text] using h
    exact List.append_cancel_left hrest

/-- Parts whose text comes back can be told apart. -/
theorem TextBack.legible (h : TextBack all ps) (numbered : ∀ k t, .span k t ∈ ps → all[k]? = some t)
    (starts : ∀ t ∈ all, ∃ rest, t = '$' :: rest) : Legible all.length ps := by
  induction hlen : ps.length using Nat.strongRecOn generalizing ps with
  | ind n ih =>
    rcases hdigits : placeholderDigits? (ps.flatMap Part.lifted) with _ | digits
    -- no placeholder is in front: a literal character, as a span would be one
    · rcases ps with _ | ⟨c | ⟨index, t⟩, ps⟩
      · exact .nil
      · refine .char ?_ ?_
        · rintro digits text hshaped ⟨rest, heq⟩
          have hsome := placeholderDigits?_eq_some_iff.mpr ⟨text, rest, hshaped, heq.symm⟩
          exact nomatch hdigits.symm.trans hsome
        · have hnone : placeholderDigits? (c :: ps.flatMap Part.lifted) = none := hdigits
          rw [TextBack, List.flatMap_cons, Part.lifted, List.singleton_append, readAs_cons hnone] at h
          have hrest : TextBack all ps := (List.cons.inj h).2
          exact ih ps.length (by simp at hlen; omega) hrest
            (fun k t hk => numbered k t (List.mem_cons_of_mem _ hk)) rfl
      · have hown := placeholderDigits?_eq_some_iff.mpr ⟨_, ps.flatMap Part.lifted, shaped_placeholder index, rfl⟩
        exact nomatch hdigits.symm.trans hown
    · obtain ⟨text, rest, hshaped, front⟩ := placeholderDigits?_eq_some_iff.mp hdigits
      -- a placeholder that names no span is literal text, one that does is the span
      rcases hnamed : named? all digits with _ | part
      · obtain ⟨more, rfl, hmore⟩ := h.eq_chars
          (fun k t hk => starts t (List.mem_of_getElem? (numbered k t hk))) hshaped front hnamed
        have hshorter : more.length < n := by
          obtain ⟨_, rfl⟩ := hshaped.exists_cons
          simp at hlen
          omega
        exact .lookalike hshaped (named?_eq_none_iff.mp hnamed)
          (ih _ hshorter hmore (fun k t hk => numbered k t (List.mem_append_right _ hk)) rfl)
      · obtain ⟨index, t, more, rfl, hsmall, hmore⟩ := h.eq_span numbered starts hshaped front hnamed
        exact .span hsmall (ih more.length (by simp at hlen; omega) hmore
          (fun k t hk => numbered k t (List.mem_cons_of_mem _ hk)) rfl)

end

/-! ## Sources -/

section

variable {source : List Char}

/-- The span of a number is that number's among all spans. -/
theorem getElem?_spans_parts {k : Nat} {t : List Char} (h : .span k t ∈ parts source) :
    (spans (parts source))[k]? = some t :=
  (getElem?_spans_partsFrom h).2

/-- A legible source is read back. -/
theorem Legible.readBack_eq (h : Legible (lift source).2.length (parts source)) :
    readBack source = parts source := by
  rw [← length_spans_parts] at h
  rw [readBack, ← flatMap_lifted_parts]
  exact h.readAs_eq fun k t hk => getElem?_spans_parts hk

/-- A source is legible if its text is read back. -/
theorem legible_of_readBack (h : (readBack source).flatMap Part.text = source) :
    Legible (lift source).2.length (parts source) := by
  rw [← length_spans_parts]
  refine TextBack.legible ?_ (fun k t hk => getElem?_spans_parts hk) ?_
  · rw [TextBack, flatMap_lifted_parts, flatMap_text_parts]
    exact h
  · intro t ht
    obtain ⟨_ | ⟨k, _⟩, hpart, heq⟩ := List.mem_filterMap.mp ht
    · cases heq
    · cases heq
      exact span_starts_of_mem_partsFrom hpart

end

/-- **Exactly the legible sources are read back.** The parts come back, or only the text does, exactly if everything
that is recognised as a placeholder in the lifted text was put there or is literal text that names no expression. The
parts that come back are the source, with each expression once and in order. -/
theorem readBack_tfae (source : List Char) :
    [readBack source = parts source,
      (readBack source).flatMap Part.text = source ∧
        (readBack source).filterMap Part.index? = List.range (lift source).2.length,
      (readBack source).flatMap Part.text = source,
      Legible (lift source).2.length (parts source)].TFAE := by
  tfae_have 1 → 2 := by
    intro h
    rw [h]
    exact ⟨flatMap_text_parts source, filterMap_index?_parts source⟩
  tfae_have 2 → 3 := And.left
  tfae_have 3 → 4 := legible_of_readBack
  tfae_have 4 → 1 := Legible.readBack_eq
  tfae_finish

/-- Literal text that looks like a placeholder comes back as the span that it names. -/
theorem readBack_lookalike_ne :
    (readBack "<p>__W_EXPR_0__$\x7bx\x7d</p>".toList).flatMap Part.text ≠ "<p>__W_EXPR_0__$\x7bx\x7d</p>".toList := by
  decide

/-- Literal text takes part of the placeholder next to it, and the expression is lost. -/
example : (readBack "__W_EXPR_7$\x7bx\x7d".toList).flatMap Part.text = "__W_EXPR_7__W_EXPR_0__".toList := by
  decide

end WidgetTemplates.Template
