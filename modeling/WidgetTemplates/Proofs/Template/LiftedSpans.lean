import Mathlib.Algebra.Group.Nat.Defs
import Mathlib.Data.List.DropRight
import WidgetTemplates.Proofs.Template.MatchingBrace

/-!
# The spans of a source by position

Where `lift` finds its spans: `Met` reads a source from a position on, takes the first position at which a span starts,
and goes on behind that span. The spans that are met so are the ones that are lifted, each with the text between its
braces and the place of its `$`, and the lifted text is the source with a placeholder for each of them (`exists_met`).
-/

namespace WidgetTemplates.Template

/-! ## Places -/

/-- A number that is not the last of its word has the successor that it should. -/
theorem toNat_add_one {n : UInt32} (h : n.toNat + 1 < 2 ^ 32) : (n + 1).toNat = n.toNat + 1 := by
  rw [UInt32.toNat_add]
  exact Nat.mod_eq_of_lt h

/-- The place behind a text. -/
def placeAfter (before : List Char) : Location := before.foldl Location.advance .start

/-- The place behind one more character. -/
theorem placeAfter_concat (before : List Char) (c : Char) :
    placeAfter (before ++ [c]) = (placeAfter before).advance c := by
  rw [placeAfter, List.foldl_append]
  rfl

/-- The line is one more than the line feeds before the place, the column one more than the characters behind the last
of them. -/
theorem placeAfter_toNat (before : List Char) (short : before.length + 1 < 2 ^ 32) :
    (placeAfter before).line.toNat = 1 + before.count '\n' ∧
      (placeAfter before).column.toNat = 1 + (before.rtakeWhile (· ≠ '\n')).length := by
  induction before using List.reverseRecOn with
  | nil => exact ⟨rfl, rfl⟩
  | append_singleton before c ih =>
    rw [List.length_append, List.length_singleton] at short
    obtain ⟨hline, hcolumn⟩ := ih (by omega)
    have hcount : before.count '\n' ≤ before.length := List.count_le_length
    have hsuffix : (before.rtakeWhile (· ≠ '\n')).length ≤ before.length := (List.rtakeWhile_suffix _ _).length_le
    rw [placeAfter_concat, Location.advance]
    by_cases hc : c = '\n'
    · subst hc
      rw [List.rtakeWhile_concat_neg _ _ _ (by simp), List.count_append, if_pos (by rfl)]
      refine ⟨?_, rfl⟩
      rw [toNat_add_one (by omega), hline]
      simp [Nat.add_assoc]
    · rw [List.rtakeWhile_concat_pos _ _ _ (by simpa using hc), List.count_append, if_neg (by simpa using hc)]
      refine ⟨?_, ?_⟩
      · rw [hline]
        simp [hc]
      · rw [toNat_add_one (by omega), hcolumn]
        simp [Nat.add_assoc]

/-! ## Spans by position -/

/-- Where a span stands in a source: from its `$` to behind the brace that closes it. -/
structure Span where
  start : Nat
  stop : Nat
deriving DecidableEq, Repr

/-- Where the span ends that starts at a position: behind the brace that closes the one behind the `$` there. -/
def spanEnd? (source : List Char) (i : Nat) : Option Nat :=
  match source.drop i with
  | '$' :: '\x7b' :: rest => (braceEnd? ('\x7b' :: rest)).map (i + 1 + ·)
  | _ => none

/-- The spans that are met from a position on, where the search goes on behind each of them. -/
inductive Met (source : List Char) : Nat → List Span → Prop
  | nil {i : Nat} (apart : ∀ j, i ≤ j → spanEnd? source j = none) : Met source i []
  | cons {i start stop : Nat} {rest : List Span} (le : i ≤ start)
    (apart : ∀ j, i ≤ j → j < start → spanEnd? source j = none) (ends : spanEnd? source start = some stop)
    (after : Met source stop rest) : Met source i (⟨start, stop⟩ :: rest)

/-- The span starts with a `$` and an opening brace, has room for both braces, and ends in the source behind the brace
that matches. -/
structure Span.Closed (source : List Char) (s : Span) : Prop where
  dollar : source[s.start]? = some '$'
  brace : source[s.start + 1]? = some '\x7b'
  ends : braceEnd? (source.drop (s.start + 1)) = some (s.stop - (s.start + 1))
  room : s.start + 3 ≤ s.stop
  within : s.stop ≤ source.length

/-- What a span holds between its braces. -/
def Span.inside (source : List Char) (s : Span) : List Char := (source.take (s.stop - 1)).drop (s.start + 2)

/-- The source from a position on, with a placeholder for each span. -/
def withPlaceholders (source : List Char) (i index : Nat) : List Span → List Char
  | [] => source.drop i
  | s :: rest => (source.take s.start).drop i ++ placeholder index ++ withPlaceholders source s.stop (index + 1) rest

section

variable {source : List Char} {i : Nat}

/-- The same in terms of the span that is found there. -/
theorem spanEnd?_eq (source : List Char) (i : Nat) :
    spanEnd? source i = (spanAt? (source.drop i)).map (i + 1 + ·.length) := by
  rw [spanEnd?]
  split
  · next rest heq =>
    rw [heq, spanAt?, braceEnd?, Option.map_map]
    rfl
  · next hnone =>
    have hspan : spanAt? (source.drop i) = none := by
      rw [spanAt?.eq_def]
      split
      · next rest heq =>
        split
        · next more => exact absurd heq (hnone more)
        · rfl
      · rfl
    rw [hspan]
    rfl

/-- A span that is found ends behind its closing brace, within the source. -/
theorem closed_of_spanEnd? {stop : Nat} (h : spanEnd? source i = some stop) : Span.Closed source ⟨i, stop⟩ := by
  rw [spanEnd?] at h
  split at h
  · next rest heq =>
    obtain ⟨length, hlength, rfl⟩ := Option.map_eq_some_iff.mp h
    have htail : source.drop (i + 1) = '\x7b' :: rest := by rw [← List.drop_drop, heq]; rfl
    have hstart : source[i]? = some '$' := by rw [← List.head?_drop, heq]; rfl
    have hbrace : source[i + 1]? = some '\x7b' := by rw [← List.head?_drop, htail]; rfl
    have hlong : 2 ≤ length := by
      rw [braceEnd?_eq] at hlength
      obtain ⟨span, hspan, rfl⟩ := Option.map_eq_some_iff.mp hlength
      exact Nat.succ_le_succ (List.length_pos_iff.mpr (Scan.span_ne_nil hspan))
    have hwithin : i + 1 + length ≤ source.length := by
      obtain ⟨span, hspan, rfl⟩ := Option.map_eq_some_iff.mp hlength
      have hle := ( spanBraces?_prefix hspan).length_le
      rw [← htail, List.length_drop] at hle
      omega
    refine ⟨hstart, hbrace, ?_, Nat.add_le_add_left hlong (i + 1), hwithin⟩
    rw [htail, hlength, Nat.add_sub_cancel_left]
  · cases h

/-! ## The spans that are met -/

namespace Met

variable {spans : List Span}

/-- No span starts at the first position. -/
theorem step (h : Met source (i + 1) spans) (none : spanEnd? source i = none) : Met source i spans := by
  cases h with
  | nil apart =>
    refine .nil fun j hj => ?_
    rcases Nat.eq_or_lt_of_le hj with rfl | hlt
    · exact none
    · exact apart j hlt
  | cons le apart ends after =>
    refine .cons (by omega) (fun j hj hlt => ?_) ends after
    rcases Nat.eq_or_lt_of_le hj with rfl | hlt'
    · exact none
    · exact apart j hlt' hlt

/-- The spans lie behind the position. -/
theorem le_start (h : Met source i spans) : ∀ s ∈ spans, i ≤ s.start := by
  induction h with
  | nil => exact nofun
  | @cons i start stop rest le _ ends _ ih =>
    have hroom : start + 3 ≤ stop := (closed_of_spanEnd? ends).room
    exact List.forall_mem_cons.mpr ⟨le, fun s hs => by have := ih s hs; omega⟩

/-- Each span ends where the next starts, or before. -/
theorem pairwise (h : Met source i spans) : spans.Pairwise fun s t => s.stop ≤ t.start := by
  induction h with
  | nil => exact .nil
  | cons _ _ _ after ih => exact .cons after.le_start ih

/-- Spans that have been met are closed. -/
theorem closed (h : Met source i spans) : ∀ s ∈ spans, s.Closed source := by
  induction h with
  | nil => exact nofun
  | cons _ _ ends _ ih => exact List.forall_mem_cons.mpr ⟨closed_of_spanEnd? ends, ih⟩

/-- There is one way to meet spans. -/
theorem unique (h : Met source i spans) {others : List Span} (h' : Met source i others) : others = spans := by
  induction h generalizing others with
  | nil apart =>
    cases h' with
    | nil => rfl
    | cons le _ ends _ => exact nomatch (apart _ le).symm.trans ends
  | @cons i start stop rest le apart ends _ ih =>
    cases h' with
    | nil none => exact nomatch (none start le).symm.trans ends
    | @cons _ start' stop' _ le' apart' ends' after' =>
      have hstart : start' = start := by
        rcases Nat.lt_trichotomy start' start with hlt | heq | hlt
        · exact nomatch (apart start' le' hlt).symm.trans ends'
        · exact heq
        · exact nomatch (apart' start le hlt).symm.trans ends
      subst hstart
      obtain rfl : stop' = stop := Option.some.inj (ends'.symm.trans ends)
      rw [ih after']

end Met

/-! ## Lifting from a position -/

/-- What is lifted from a position on, after a number of expressions. -/
def liftedFrom (source : List Char) (i index : Nat) : List Char × List Lifted :=
  liftFrom index (placeAfter (source.take i)) 0 (source.drop i)

/-- What is lifted from a span. -/
def Span.lifted (source : List Char) (s : Span) : Lifted :=
  ⟨Text.trim (s.inside source), placeAfter (source.take s.start)⟩

/-- At a position of a text its character comes first. -/
theorem drop_eq_cons {c : Char} (h : source[i]? = some c) : source.drop i = c :: source.drop (i + 1) := by
  obtain ⟨hlt, rfl⟩ := List.getElem?_eq_some_iff.mp h
  exact List.drop_eq_getElem_cons hlt

/-- Behind the end nothing is lifted. -/
theorem liftedFrom_end (h : source.length ≤ i) (index : Nat) : liftedFrom source i index = ([], []) := by
  rw [liftedFrom, List.drop_eq_nil_of_le h]
  rfl

/-- A character at which no span starts stays. -/
theorem liftedFrom_char {c : Char} (hc : source[i]? = some c) (apart : spanEnd? source i = none) (index : Nat) :
    liftedFrom source i index = (liftedFrom source (i + 1) index).map (c :: ·) id := by
  have hplace : placeAfter (source.take (i + 1)) = (placeAfter (source.take i)).advance c := by
    rw [List.take_add_one, hc, Option.toList_some, placeAfter_concat]
  rw [spanEnd?_eq, Option.map_eq_none_iff, drop_eq_cons hc] at apart
  rw [liftedFrom, liftedFrom, hplace, drop_eq_cons hc, liftFrom, apart]
  rfl

/-- The characters of a span that has been lifted are passed over. -/
theorem liftFrom_skip (index : Nat) (location : Location) {span : List Char} (rest : List Char) :
    liftFrom index location span.length (span ++ rest) =
      liftFrom index (span.foldl Location.advance location) 0 rest := by
  induction span generalizing location with
  | nil => rfl
  | cons c span ih => exact ih (location.advance c)

/-- What is inside a span are its characters but for the braces. -/
theorem inside_span (before span tail : List Char) :
    Span.inside (before ++ '$' :: (span ++ tail)) ⟨before.length, before.length + 1 + span.length⟩ =
      (span.drop 1).dropLast := by
  rcases span with _ | ⟨c, span⟩
  · simp [Span.inside]
  · have hstop : before.length + 1 + (c :: span).length - 1 = before.length + (span.length + 1) := by simp; omega
    rw [Span.inside, hstop, List.take_length_add_append, List.drop_length_add_append, List.drop_take]
    simp [List.dropLast_eq_take, List.take_append_of_le_length]

/-- A span is replaced by its placeholder. -/
theorem liftedFrom_span {stop : Nat} (ends : spanEnd? source i = some stop) (index : Nat) :
    liftedFrom source i index =
      (liftedFrom source stop (index + 1)).map (placeholder index ++ ·) (Span.lifted source ⟨i, stop⟩ :: ·) := by
  have hlt : i < source.length := (List.getElem?_eq_some_iff.mp (closed_of_spanEnd? ends).dollar).1
  have hdrop := drop_eq_cons (closed_of_spanEnd? ends).dollar
  rw [spanEnd?_eq, hdrop] at ends
  obtain ⟨span, hspan, rfl⟩ := Option.map_eq_some_iff.mp ends
  obtain ⟨-, tail, hrest⟩ := spanAt?_cons hspan
  rw [← hrest] at hdrop hspan
  have htake : source.take (i + 1 + span.length) = source.take i ++ '$' :: span := by
    rw [Nat.add_assoc, List.take_add, hdrop, Nat.add_comm, List.take_succ_cons, List.take_left]
  have htail : source.drop (i + 1 + span.length) = tail := by rw [← List.drop_drop, ← hrest, List.drop_left]
  have hinside : Span.inside source ⟨i, i + 1 + span.length⟩ = (span.drop 1).dropLast := by
    have hsource := inside_span (source.take i) span tail
    rwa [← hdrop, List.take_append_drop, List.length_take_of_le hlt.le] at hsource
  have hplace : placeAfter (source.take (i + 1 + span.length)) =
      span.foldl Location.advance ((placeAfter (source.take i)).advance '$') := by
    rw [htake, placeAfter, placeAfter, List.foldl_append]
    rfl
  rw [liftedFrom, liftedFrom, hplace, htail, ← liftFrom_skip, hdrop, liftFrom, hspan, Span.lifted, hinside]
  rfl

/-! ## Exactly the spans that are met -/

/-- A character in front of all spans stays. -/
theorem withPlaceholders_step {c : Char} (hc : source[i]? = some c) {spans : List Span}
    (behind : ∀ s ∈ spans, i + 1 ≤ s.start) (index : Nat) :
    withPlaceholders source i index spans = c :: withPlaceholders source (i + 1) index spans := by
  rcases spans with _ | ⟨s, rest⟩
  · exact drop_eq_cons hc
  · have hlt := behind s List.mem_cons_self
    rw [withPlaceholders, withPlaceholders, List.drop_take, List.drop_take, drop_eq_cons hc,
      show s.start - i = (s.start - (i + 1)) + 1 by omega]
    rfl

/-- From any position, the spans that are met are lifted, and their placeholders are put in. -/
theorem exists_met (source : List Char) (i index : Nat) :
    ∃ spans, Met source i spans ∧
      liftedFrom source i index = (withPlaceholders source i index spans, spans.map (Span.lifted source)) := by
  induction hn : source.length - i using Nat.strongRecOn generalizing i index with
  | ind n ih =>
    rcases hc : source[i]? with _ | c
    · rw [List.getElem?_eq_none_iff] at hc
      refine ⟨[], .nil fun j hj => ?_, ?_⟩
      · rw [spanEnd?, List.drop_eq_nil_of_le (hc.trans hj)]
      · rw [liftedFrom_end hc, withPlaceholders, List.drop_eq_nil_of_le hc]
        rfl
    · have hlt : i < source.length := (List.getElem?_eq_some_iff.mp hc).1
      rcases hend : spanEnd? source i with _ | stop
      · obtain ⟨spans, hmet, hlift⟩ := ih _ (by omega) (i + 1) index rfl
        refine ⟨spans, hmet.step hend, ?_⟩
        rw [liftedFrom_char hc hend, hlift, withPlaceholders_step hc hmet.le_start]
        rfl
      · have hroom : i + 3 ≤ stop := (closed_of_spanEnd? hend).room
        obtain ⟨spans, hmet, hlift⟩ := ih _ (by omega) stop (index + 1) rfl
        refine ⟨⟨i, stop⟩ :: spans, .cons (Nat.le_refl i) (fun j hj hlt => by omega) hend hmet, ?_⟩
        rw [liftedFrom_span hend, hlift, withPlaceholders, List.drop_eq_nil_of_le (List.length_take_le i source)]
        rfl

end

end WidgetTemplates.Template
