import WidgetTemplates.Template.Lifting

/-!
# The parts of a source

A source is literal text and the spans of the expressions that are lifted out of it (`parts`). Its parts one after
another are the source, and the text that `lift` gives is the same parts with a placeholder for each span. The spans
are numbered in order, and each is a `$` with the braces behind it.
-/

namespace WidgetTemplates.Template

/-- A part of a source: a character of literal text, or the span of the expression of a number. -/
inductive Part where
  | char (c : Char)
  | span (index : Nat) (text : List Char)
deriving DecidableEq, Repr

namespace Part

/-- The part as the source has it. -/
def text : Part → List Char
  | .char c => [c]
  | .span _ text => text

/-- The part as the lifted text has it. -/
def lifted : Part → List Char
  | .char c => [c]
  | .span index _ => placeholder index

/-- The span, if the part is one. -/
def span? : Part → Option (List Char)
  | .char _ => none
  | .span _ text => some text

/-- The number, if the part is a span. -/
def index? : Part → Option Nat
  | .char _ => none
  | .span index _ => some index

@[simp] theorem flatMap_text_map_char (cs : List Char) : (cs.map Part.char).flatMap Part.text = cs := by
  rw [List.flatMap_map]
  exact List.flatMap_singleton' cs

@[simp] theorem flatMap_lifted_map_char (cs : List Char) : (cs.map Part.char).flatMap Part.lifted = cs := by
  rw [List.flatMap_map]
  exact List.flatMap_singleton' cs

end Part

/-- The parts after `index` expressions. The first `skip` characters belong to a span that is over. -/
def partsFrom (index : Nat) : Nat → List Char → List Part
  | _, [] => []
  | skip + 1, _ :: rest => partsFrom index skip rest
  | 0, c :: rest =>
    match spanAt? (c :: rest) with
    | some span => .span index (c :: span) :: partsFrom (index + 1) span.length rest
    | none => .char c :: partsFrom index 0 rest

/-- The parts of a source in order. -/
def parts (source : List Char) : List Part := partsFrom 0 0 source

/-- The spans among parts in order. -/
def spans (ps : List Part) : List (List Char) := ps.filterMap Part.span?

/-! ## Spans -/

/-- A span is what the text starts with. -/
theorem spanBraces?_prefix {e : Enclosure} {s span : List Char} (h : spanBraces? e s = some span) :
    span <+: s := by
  fun_induction spanBraces? e s generalizing span with
  | case1 => cases h
  | case2 e c _ => cases h; exact List.prefix_refl _
  | case3 => cases h
  | case4 e c d rest _ ih | case5 e c d rest _ _ ih =>
    obtain ⟨inner, hinner, rfl⟩ := Option.map_eq_some_iff.mp h
    simpa [List.cons_prefix_cons] using ih hinner
  | case6 e c d rest _ _ _ => cases h; exact ⟨d :: rest, rfl⟩
  | case7 e c d rest _ _ _ ih =>
    obtain ⟨inner, hinner, rfl⟩ := Option.map_eq_some_iff.mp h
    simpa [List.cons_prefix_cons] using ih hinner

/-- A span starts with a `$`, and the rest of it follows there. -/
theorem spanAt?_cons {c : Char} {rest span : List Char} (h : spanAt? (c :: rest) = some span) :
    c = '$' ∧ span <+: rest := by
  rw [spanAt?.eq_def] at h
  split at h
  · next hcons =>
    split at h
    · cases hcons
      exact ⟨rfl, spanBraces?_prefix h⟩
    · cases h
  · cases h

/-! ## The parts -/

section From

variable {index skip : Nat} {s : List Char}

/-- The texts of the parts make up the source. -/
theorem flatMap_text_partsFrom (index skip : Nat) (s : List Char) :
    (partsFrom index skip s).flatMap Part.text = s.drop skip := by
  fun_induction partsFrom index skip s with
  | case1 => simp
  | case2 index skip c rest ih => simpa using ih
  | case3 index c rest span hspan ih =>
    obtain ⟨tail, rfl⟩ := (spanAt?_cons hspan).2
    simp [Part.text, ih]
  | case4 index c rest hspan ih => simp [Part.text, ih]

/-- What the parts lift is what lifting lifts. -/
theorem flatMap_lifted_partsFrom (index skip : Nat) (location : Location) (s : List Char) :
    (partsFrom index skip s).flatMap Part.lifted = (liftFrom index location skip s).1 := by
  fun_induction partsFrom index skip s generalizing location with
  | case1 => rw [liftFrom.eq_def]; rfl
  | case2 index skip c rest ih => rw [liftFrom, ih]
  | case3 index c rest span hspan ih =>
    rw [liftFrom, hspan, List.flatMap_cons, ih (location.advance c)]
    rfl
  | case4 index c rest hspan ih =>
    rw [liftFrom, hspan, List.flatMap_cons, ih (location.advance c)]
    rfl

/-- The lifted expressions are what the braces of the spans hold. -/
theorem map_code_liftFrom (index skip : Nat) (location : Location) (s : List Char) :
    (liftFrom index location skip s).2.map Lifted.code =
      (spans (partsFrom index skip s)).map fun span => Text.trim (span.drop 2).dropLast := by
  fun_induction partsFrom index skip s generalizing location with
  | case1 => rw [liftFrom.eq_def]; rfl
  | case2 index skip c rest ih => rw [liftFrom, ih]
  | case3 index c rest span hspan ih =>
    rw [liftFrom, hspan]
    exact congrArg (Text.trim (span.drop 1).dropLast :: ·) (ih (location.advance c))
  | case4 index c rest hspan ih =>
    rw [liftFrom, hspan]
    exact ih (location.advance c)

/-- The spans are numbered one after another. -/
theorem filterMap_index?_partsFrom (index skip : Nat) (s : List Char) :
    (partsFrom index skip s).filterMap Part.index? =
      List.range' index (spans (partsFrom index skip s)).length := by
  fun_induction partsFrom index skip s with
  | case1 => rfl
  | case2 index skip c rest ih => exact ih
  | case3 index c rest span hspan ih => exact congrArg (index :: ·) ih
  | case4 index c rest hspan ih => exact ih

/-- The number of a span says which one it is. -/
theorem getElem?_spans_partsFrom {k : Nat} {text : List Char} (h : .span k text ∈ partsFrom index skip s) :
    index ≤ k ∧ (spans (partsFrom index skip s))[k - index]? = some text := by
  fun_induction partsFrom index skip s with
  | case1 => cases h
  | case2 index skip c rest ih => exact ih h
  | case3 index c rest span hspan ih =>
    rcases List.mem_cons.mp h with heq | h
    · obtain ⟨rfl, rfl⟩ := Part.span.inj heq
      exact ⟨Nat.le_refl _, by simp [spans, Part.span?]⟩
    · obtain ⟨hle, hget⟩ := ih h
      refine ⟨by omega, ?_⟩
      rw [show k - index = (k - (index + 1)) + 1 by omega]
      exact hget
  | case4 index c rest hspan ih => exact ih (by simpa using h)

/-- A span starts with a dollar sign. -/
theorem span_starts_of_mem_partsFrom {k : Nat} {text : List Char} (h : .span k text ∈ partsFrom index skip s) :
    ∃ rest, text = '$' :: rest := by
  fun_induction partsFrom index skip s with
  | case1 => cases h
  | case2 index skip c rest ih => exact ih h
  | case3 index c rest span hspan ih =>
    rcases List.mem_cons.mp h with heq | h
    · obtain ⟨rfl, rfl⟩ := Part.span.inj heq
      exact ⟨span, by rw [(spanAt?_cons hspan).1]⟩
    · exact ih h
  | case4 index c rest hspan ih => exact ih (by simpa using h)

end From

/-- The parts of a source one after another are the source. -/
theorem flatMap_text_parts (source : List Char) : (parts source).flatMap Part.text = source :=
  flatMap_text_partsFrom 0 0 source

/-- The lifted text has a placeholder in place of each span. -/
theorem flatMap_lifted_parts (source : List Char) : (parts source).flatMap Part.lifted = (lift source).1 :=
  flatMap_lifted_partsFrom 0 0 .start source

/-- Every span is lifted. -/
theorem length_spans_parts (source : List Char) : (spans (parts source)).length = (lift source).2.length := by
  have hcodes := congrArg List.length (map_code_liftFrom 0 0 .start source)
  rw [List.length_map, List.length_map] at hcodes
  exact hcodes.symm

/-- The spans are numbered in order. -/
theorem filterMap_index?_parts (source : List Char) :
    (parts source).filterMap Part.index? = List.range (lift source).2.length := by
  rw [← length_spans_parts, List.range_eq_range']
  exact filterMap_index?_partsFrom 0 0 source

end WidgetTemplates.Template
