import Mathlib.Data.List.Forall2
import WidgetTemplates.Proofs.Template.LiftedSpans
import WidgetTemplates.Proofs.Text.Blank

/-!
# Lifting by positions

`lift` walks along lists and counts without bound. `liftAt` does the same by positions: it reads characters and cuts out
spans at positions of the source, keeps its counters in words, and takes a limited number of steps; whatever goes wrong
there is a `Fault`. For a source of fewer than `2 ^ 31` characters nothing does, and it gives what `lift` gives
(`liftAt_eq`). With the spans by position this says exactly what is lifted (`lifted_exactly`).

Over a source, `Enclosure.Room` carries the search for the end of a span: each step may raise a counter by one, and has
one character less to go.
-/

namespace WidgetTemplates.Template

/-- What lifting by positions may run into: a position outside the source, a counter below zero or one that its word
does not hold, or a loop that goes on for too long. -/
inductive Fault where
  | outOfRange
  | overflow
  | unfinished
deriving DecidableEq, Repr

/-- The character at a position. -/
def charAt (text : List Char) (i : Nat) : Except Fault Char :=
  match text[i]? with
  | some c => .ok c
  | none => .error .outOfRange

/-- The characters from a position up to another. -/
def slice (text : List Char) (i j : Nat) : Except Fault (List Char) :=
  if i ≤ j ∧ j ≤ text.length then .ok ((text.take j).drop i) else .error .outOfRange

/-- A position that a word of 32 bits holds. -/
def position (i : Nat) : Except Fault Nat := if i < 2 ^ 32 then .ok i else .error .overflow

/-! ## The search for the end of a span -/

namespace Enclosure

/-- The number of open braces. -/
def depth : Enclosure → Nat
  | .braces depth | .quoted _ depth | .literal _ depth => depth

/-- The number of open substitutions. -/
def substitutions : Enclosure → Nat
  | .literal substitutions _ => substitutions
  | _ => 0

/-- An enclosure whose counters signed words of 32 bits hold. -/
def checked (e : Enclosure) : Except Fault Enclosure :=
  if e.depth < 2 ^ 31 ∧ e.substitutions < 2 ^ 31 then .ok e else .error .overflow

variable {e : Enclosure} {c : Char}

/-- A character opens one brace at most. -/
theorem depth_next_le (e : Enclosure) (c : Char) : (e.next c).depth ≤ e.depth + 1 := by
  cases e <;> grind [next, depth]

/-- A character opens no substitution by itself. -/
theorem substitutions_next_le (e : Enclosure) (c : Char) : (e.next c).substitutions ≤ e.substitutions := by
  cases e <;> grind [next, substitutions]

/-- As long as the last brace is not closed some brace is open. -/
theorem depth_next_pos (opened : 0 < e.depth) (closes : e.closes c = false) : 0 < (e.next c).depth := by
  cases e <;> grind [next, depth, Enclosure.closes]

theorem depth_deeper (e : Enclosure) : e.deeper.depth = e.depth := by
  cases e <;> rfl

/-- Going into a substitution opens one. -/
theorem substitutions_deeper_le (e : Enclosure) : e.deeper.substitutions ≤ e.substitutions + 1 := by
  cases e <;> simp [deeper, substitutions]

end Enclosure

/-- How the search goes on: from a position, with what encloses the character there. -/
def goOn (e : Enclosure) (i : Nat) : Except Fault (Nat ⊕ Enclosure × Nat) := do
  return .inr (← e.checked, ← position i)

/-- The step over one character. No brace is closed that has not been opened. -/
def passOne (e : Enclosure) (c : Char) (i : Nat) : Except Fault (Nat ⊕ Enclosure × Nat) :=
  if e.closes c then .inl <$> position (i + 1)
  else if e.depth = 0 ∧ c = '\x7d' then .error .overflow
  else goOn (e.next c) (i + 1)

/-- One step of the search for the end of a span: where the span ends, or how the search goes on. -/
def endStep (text : List Char) (e : Enclosure) (i : Nat) : Except Fault (Nat ⊕ Enclosure × Nat) := do
  let c ← charAt text i
  if i + 1 < text.length then
    let d ← charAt text (i + 1)
    if c == '\\' then goOn e (i + 2)
    else if e.opensSubstitution c d then goOn e.deeper (i + 2)
    else passOne e c i
  else passOne e c i

/-- The search by positions for the end of a span, of at most `fuel` steps. -/
def endAt (text : List Char) : (fuel : Nat) → Enclosure → Nat → Except Fault (Option Nat)
  | 0, _, _ => .error .unfinished
  | fuel + 1, e, i =>
    if i < text.length then do
      match ← endStep text e i with
      | .inl stop => return some stop
      | .inr (e', j) => endAt text fuel e' j
    else
      return none

/-- Where the search that starts at a position stops. -/
def stopFrom? (text : List Char) (e : Enclosure) (i : Nat) : Option Nat :=
  (spanBraces? e (text.drop i)).map (i + ·.length)

/-- Some brace is open, and over the rest of the text no counter outgrows its word. -/
structure Enclosure.Room (text : List Char) (e : Enclosure) (i : Nat) : Prop where
  opened : 0 < e.depth
  depth : e.depth + (text.length - i) < 2 ^ 31
  substitutions : e.substitutions + (text.length - i) < 2 ^ 31

/-- What one step of the search yields. -/
inductive Stepped (text : List Char) (e : Enclosure) (i : Nat) : Except Fault (Nat ⊕ Enclosure × Nat) → Prop
  | stops {stop : Nat} (same : stopFrom? text e i = some stop) : Stepped text e i (.ok (.inl stop))
  | goesOn {e' : Enclosure} {j : Nat} (same : stopFrom? text e i = stopFrom? text e' j) (further : i < j)
    (room : e'.Room text j) : Stepped text e i (.ok (.inr (e', j)))

section

variable {text : List Char} {e : Enclosure} {i : Nat} {c : Char}

theorem ok_bind {α β : Type} (a : α) (f : α → Except Fault β) : Except.ok a >>= f = f a := rfl

/-- A position inside the text has its character. -/
theorem charAt_eq (h : text[i]? = some c) : charAt text i = .ok c := by
  rw [charAt, h]

/-- A position of a short text fits. -/
theorem position_eq (short : text.length < 2 ^ 31) (h : i ≤ text.length + 1) : position i = .ok i :=
  if_pos (by omega)

/-- Going on at a position of a short text runs into nothing. -/
theorem goOn_eq (short : text.length < 2 ^ 31) (h : i ≤ text.length + 1) (room : e.Room text i) :
    goOn e i = .ok (.inr (e, i)) := by
  obtain ⟨-, hdepth, hsubstitutions⟩ := room
  rw [goOn, Enclosure.checked, if_pos (by omega), position_eq short h]
  rfl

/-- What a step takes along belongs to the span. -/
theorem stopFrom?_eq {e' : Enclosure} (front : List Char)
    (h : spanBraces? e (text.drop i) = (spanBraces? e' (text.drop (i + front.length))).map (front ++ ·)) :
    stopFrom? text e i = stopFrom? text e' (i + front.length) := by
  rw [stopFrom?, stopFrom?, h, Option.map_map]
  simp [Function.comp_def, Nat.add_assoc]

/-- A step by position finds the span that the text from there on has. -/
theorem stepped_passOne (short : text.length < 2 ^ 31) (hc : text[i]? = some c) (room : e.Room text i)
    (span : spanBraces? e (text.drop i) =
      if e.closes c then some [c] else (spanBraces? (e.next c) (text.drop (i + 1))).map (c :: ·)) :
    Stepped text e i (passOne e c i) := by
  obtain ⟨opened, hdepth, hsubstitutions⟩ := room
  have hi : i < text.length := (List.getElem?_eq_some_iff.mp hc).1
  rw [passOne]
  rcases hcloses : e.closes c
  · have hle := e.depth_next_le c
    have hle' := e.substitutions_next_le c
    have hnext : (e.next c).Room text (i + 1) := ⟨e.depth_next_pos opened hcloses, by omega, by omega⟩
    rw [if_neg (by simp), if_neg (by omega), goOn_eq short (by omega) hnext]
    rw [hcloses] at span
    exact .goesOn (stopFrom?_eq [c] span) (Nat.lt_succ_self i) hnext
  · rw [if_pos rfl, position_eq short (by omega)]
    rw [hcloses] at span
    exact .stops (by rw [stopFrom?, span]; rfl)

/-- One step runs into no fault and changes nothing about where the search stops. -/
theorem stepped_endStep (short : text.length < 2 ^ 31) (hi : i < text.length) (room : e.Room text i) :
    Stepped text e i (endStep text e i) := by
  have hc : text[i]? = some text[i] := List.getElem?_eq_getElem hi
  generalize text[i] = c at hc
  have hdrop := drop_eq_cons hc
  rw [endStep, charAt_eq hc, ok_bind]
  -- the two characters that a step looks at are there, or the text ends after one
  by_cases hd : i + 1 < text.length
  · have hd' : text[i + 1]? = some text[i + 1] := List.getElem?_eq_getElem hd
    generalize text[i + 1] = d at hd'
    rw [if_pos hd, charAt_eq hd', ok_bind]
    have hdrop' : text.drop (i + 1) = d :: text.drop (i + 2) := drop_eq_cons hd'
    rw [hdrop'] at hdrop
    obtain ⟨opened, hdepth, hsubstitutions⟩ := room
    by_cases hbackslash : (c == '\\') = true
    · have hsame : e.Room text (i + 2) := ⟨opened, by omega, by omega⟩
      rw [if_pos hbackslash, goOn_eq short (by omega) hsame]
      refine .goesOn (stopFrom?_eq [c, d] ?_) (by omega) hsame
      rw [hdrop, spanBraces?, if_pos hbackslash]
      rfl
    · rw [if_neg hbackslash]
      by_cases hopens : e.opensSubstitution c d = true
      · have hle := e.substitutions_deeper_le
        have hdeeper : e.deeper.Room text (i + 2) :=
          ⟨by rwa [e.depth_deeper], by rw [e.depth_deeper]; omega, by omega⟩
        rw [if_pos hopens, goOn_eq short (by omega) hdeeper]
        refine .goesOn (stopFrom?_eq [c, d] ?_) (by omega) hdeeper
        rw [hdrop, spanBraces?, if_neg hbackslash, if_pos hopens]
        rfl
      · rw [if_neg hopens]
        refine stepped_passOne short hc ⟨opened, hdepth, hsubstitutions⟩ ?_
        rw [hdrop, spanBraces?, if_neg hbackslash, if_neg hopens, hdrop']
  · have hend : text.drop (i + 1) = [] := List.drop_eq_nil_of_le (Nat.not_lt.mp hd)
    rw [if_neg hd]
    refine stepped_passOne short hc room ?_
    rw [hdrop, hend, spanBraces?, spanBraces?]
    rfl

/-- The search by positions runs into no fault and stops where the search does. -/
theorem endAt_eq (short : text.length < 2 ^ 31) {fuel : Nat} (enough : text.length - i < fuel) (room : e.Room text i) :
    endAt text fuel e i = .ok (stopFrom? text e i) := by
  induction fuel generalizing e i with
  | zero => exact absurd enough (Nat.not_lt_zero _)
  | succ fuel ih =>
    rw [endAt]
    by_cases hi : i < text.length
    · rw [if_pos hi]
      have hstep := stepped_endStep short hi room
      generalize endStep text e i = step at hstep
      cases hstep with
      | stops same => rw [ok_bind, same]; rfl
      | goesOn same further room' => rw [ok_bind, same]; exact ih (by omega) room'
    · rw [if_neg hi, stopFrom?, List.drop_eq_nil_of_le (Nat.not_lt.mp hi)]
      rfl

/-- The search for the end of a span starts at its first brace. -/
theorem endAt_brace (short : text.length < 2 ^ 31) (brace : text[i]? = some '\x7b') :
    endAt text (text.length + 1) (.braces 0) i = .ok (stopFrom? text (.braces 0) i) := by
  have hi : i < text.length := (List.getElem?_eq_some_iff.mp brace).1
  have hroom : (Enclosure.braces 1).Room text (i + 1) :=
    ⟨Nat.one_pos, show 1 + _ < _ by omega, show 0 + _ < _ by omega⟩
  have hpass : passOne (.braces 0) '\x7b' i = .ok (.inr (.braces 1, i + 1)) := goOn_eq short (by omega) hroom
  have hstep : endStep text (.braces 0) i = .ok (.inr (.braces 1, i + 1)) := by
    rw [endStep, charAt_eq brace, ok_bind]
    split
    · next hd => rw [charAt_eq (List.getElem?_eq_getElem hd), ok_bind, ← hpass]; rfl
    · exact hpass
  have hsame : stopFrom? text (.braces 0) i = stopFrom? text (.braces 1) (i + 1) := by
    refine stopFrom?_eq ['\x7b'] ?_
    rw [drop_eq_cons brace, List.length_singleton]
    cases text.drop (i + 1) <;> rfl
  rw [endAt, if_pos hi, hstep, ok_bind, hsame]
  exact endAt_eq short (by omega) hroom

end

/-! ## Lifting -/

/-- The place after a character. -/
def Location.checkedAdvance (l : Location) (c : Char) : Except Fault Location :=
  if (if c == '\n' then l.line else l.column).toNat + 1 < 2 ^ 32 then .ok (l.advance c) else .error .overflow

/-- Where the span ends that starts at a position, if one starts there. -/
def endOfSpanAt (source : List Char) (c : Char) (i : Nat) : Except Fault (Option Nat) :=
  if c = '$' ∧ source[i + 1]? = some '\x7b' then endAt source (source.length + 1) (.braces 0) (i + 1) else .ok none

/-- Lifting by positions, in at most `fuel` steps: from a position and a place, with the text and the expressions
gathered so far. -/
def liftAt (source : List Char) : (fuel : Nat) → Nat → Location → List Char → List Lifted →
    Except Fault (List Char × List Lifted)
  | 0, _, _, _, _ => .error .unfinished
  | fuel + 1, i, location, text, lifted =>
    if i < source.length then do
      let c ← charAt source i
      match ← endOfSpanAt source c i with
      | some stop => do
        let inside ← slice source (i + 2) (stop - 1)
        let span ← slice source i stop
        let next ← span.foldlM Location.checkedAdvance location
        liftAt source fuel stop next (text ++ placeholder lifted.length) (lifted ++ [⟨Text.trim inside, location⟩])
      | none => do
        let next ← location.checkedAdvance c
        liftAt source fuel (← position (i + 1)) next (text ++ [c]) lifted
    else
      return (text, lifted)

section

variable {source : List Char} {i : Nat}

/-- A slice inside the source is cut out. -/
theorem slice_eq {j : Nat} (le : i ≤ j) (within : j ≤ source.length) :
    slice source i j = .ok ((source.take j).drop i) :=
  if_pos ⟨le, within⟩

/-- Places behind short texts fit into their words. -/
theorem checkedAdvance_placeAfter {before : List Char} (short : before.length + 2 < 2 ^ 32) (c : Char) :
    (placeAfter before).checkedAdvance c = .ok (placeAfter (before ++ [c])) := by
  obtain ⟨hline, hcolumn⟩ := placeAfter_toNat before (by omega)
  have hcount : before.count '\n' ≤ before.length := List.count_le_length
  have hsuffix : (before.rtakeWhile (· ≠ '\n')).length ≤ before.length := (List.rtakeWhile_suffix _ _).length_le
  rw [Location.checkedAdvance, placeAfter_concat]
  split <;> exact if_pos (by omega)

/-- Lines and columns of a short text fit their words. -/
theorem foldlM_checkedAdvance {before : List Char} (more : List Char)
    (short : (before ++ more).length + 1 < 2 ^ 32) :
    more.foldlM Location.checkedAdvance (placeAfter before) = .ok (placeAfter (before ++ more)) := by
  induction more generalizing before with
  | nil => simp; rfl
  | cons c more ih =>
    rw [List.append_cons] at short ⊢
    rw [List.foldlM_cons, checkedAdvance_placeAfter (by simp at short; omega), ok_bind, ih short]

/-- The search at a position finds the span that starts there. -/
theorem endOfSpanAt_eq (short : source.length < 2 ^ 31) {c : Char} (hc : source[i]? = some c) :
    endOfSpanAt source c i = .ok (spanEnd? source i) := by
  rw [endOfSpanAt]
  split
  · next h =>
    obtain ⟨rfl, hbrace⟩ := h
    have hdrop : source.drop (i + 1) = '\x7b' :: source.drop (i + 2) := drop_eq_cons hbrace
    rw [endAt_brace short hbrace, stopFrom?, spanEnd?_eq, drop_eq_cons hc, hdrop]
    rfl
  · next h =>
    rw [spanEnd?]
    split
    · next rest hrest =>
      refine absurd ⟨?_, ?_⟩ h
      · rw [drop_eq_cons hc] at hrest
        exact (List.cons.inj hrest).1
      · rw [← List.head?_drop, ← List.drop_drop, hrest]
        rfl
    · rfl

/-- Lifting by positions runs into no fault and gives what lifting gives. -/
theorem liftAt_eq (short : source.length < 2 ^ 31) {fuel : Nat} (enough : source.length - i < fuel)
    (text : List Char) (lifted : List Lifted) :
    liftAt source fuel i (placeAfter (source.take i)) text lifted =
      .ok ((liftedFrom source i lifted.length).map (text ++ ·) (lifted ++ ·)) := by
  induction fuel generalizing i text lifted with
  | zero => exact absurd enough (Nat.not_lt_zero _)
  | succ fuel ih =>
    rw [liftAt]
    rcases hc : source[i]? with _ | c
    · have hi := List.getElem?_eq_none_iff.mp hc
      rw [if_neg (by omega), liftedFrom_end hi]
      simp; rfl
    · have hi : i < source.length := (List.getElem?_eq_some_iff.mp hc).1
      have hplace : (placeAfter (source.take i)).checkedAdvance c = .ok (placeAfter (source.take (i + 1))) := by
        rw [List.take_add_one, hc]
        exact checkedAdvance_placeAfter (by rw [List.length_take]; omega) c
      rw [if_pos hi, charAt_eq hc, ok_bind, endOfSpanAt_eq short hc, ok_bind]
      rcases hend : spanEnd? source i with _ | stop
      · dsimp only
        rw [hplace, ok_bind, position_eq short (by omega), ok_bind, ih (by omega), liftedFrom_char hc hend,
          Prod.map_map]
        simp [Function.comp_def]
      -- a span: the text in front of it and the span make up the text to its end, and so do the places
      · have hroom : i + 3 ≤ stop := (closed_of_spanEnd? hend).room
        have hwithin : stop ≤ source.length := (closed_of_spanEnd? hend).within
        have hsplit : source.take i ++ (source.take stop).drop i = source.take stop := by
          have hboth := List.take_append_drop i (source.take stop)
          rwa [List.take_take, Nat.min_eq_left (by omega)] at hboth
        have hplaces : ((source.take stop).drop i).foldlM Location.checkedAdvance (placeAfter (source.take i)) =
            .ok (placeAfter (source.take stop)) := by
          rw [foldlM_checkedAdvance _ (by rw [hsplit, List.length_take]; omega), hsplit]
        dsimp only
        rw [slice_eq (by omega) (by omega), ok_bind, slice_eq (by omega) hwithin, ok_bind, hplaces, ok_bind,
          ih (by omega), liftedFrom_span hend, Prod.map_map]
        simp [Function.comp_def, Span.lifted, Span.inside]

/-- What is lifted from a span: the text between its braces without the blanks around it, with the line and the column
of its `$`. -/
structure Lifted.HeldBy (source : List Char) (e : Lifted) (s : Span) : Prop where
  unpadded : Text.Unpadded e.code
  inside : ∃ front back, s.inside source = front ++ e.code ++ back ∧ (∀ c ∈ front, Text.isBlank c = true) ∧
    ∀ c ∈ back, Text.isBlank c = true
  line : e.location.line.toNat = 1 + (source.take s.start).count '\n'
  column : e.location.column.toNat = 1 + ((source.take s.start).rtakeWhile (· ≠ '\n')).length

/-- The lifted form of a span in a short source holds the positions of the span. -/
theorem Span.heldBy_lifted (short : source.length < 2 ^ 31) (s : Span) : (s.lifted source).HeldBy source s := by
  obtain ⟨unpadded, hinside⟩ := Text.trim_eq_iff.mp (Eq.refl (Text.trim (s.inside source)))
  obtain ⟨hline, hcolumn⟩ := placeAfter_toNat (source.take s.start) (by rw [List.length_take]; omega)
  exact ⟨unpadded, hinside, hline, hcolumn⟩

/-- **Lifting is exact.** On a source of fewer than `2 ^ 31` characters, lifting by positions comes to an end without a
fault and gives what `lift` gives. The spans that are lifted are those met from left to right, which lie apart and in
order and end behind their matching braces. The lifted text is the source with the placeholder of its number for each
span, and the expressions are what the spans hold, where they stand. -/
theorem lifted_exactly (short : source.length < 2 ^ 31) :
    liftAt source (source.length + 1) 0 .start [] [] = .ok (lift source) ∧
      ∃ spans, (∀ others, Met source 0 others ↔ others = spans) ∧
        spans.Pairwise (fun s t => s.stop ≤ t.start) ∧ (∀ s ∈ spans, s.Closed source) ∧
        (lift source).1 = withPlaceholders source 0 0 spans ∧
        List.Forall₂ (Lifted.HeldBy source) (lift source).2 spans := by
  obtain ⟨spans, hmet, hlift⟩ := exists_met source 0 0
  have hwhole : lift source = (withPlaceholders source 0 0 spans, spans.map (Span.lifted source)) := hlift
  refine ⟨liftAt_eq short (by omega) [] [], spans, ?_, hmet.pairwise, hmet.closed, by rw [hwhole], ?_⟩
  · exact fun others => ⟨fun h => hmet.unique h, fun h => h ▸ hmet⟩
  · rw [hwhole, List.forall₂_map_left_iff, List.forall₂_same]
    exact fun s _ => s.heldBy_lifted short

/-- Behind a span of several lines, and in a span that is never closed. -/
theorem lifted_exactly_behind_lines :
    let source := "x\n$\x7b \x7ba:\n1\x7d \x7d$\x7b'\x7d$\x7bb\x7d".toList
    source.length < 2 ^ 31 ∧
      ∃ result, liftAt source (source.length + 1) 0 .start [] [] = .ok result ∧
        result.1 = "x\n__W_EXPR_0__$\x7b'\x7d__W_EXPR_1__".toList ∧
        result.2.map (fun e => (e.code, e.location)) = [("\x7ba:\n1\x7d".toList, ⟨2, 1⟩), (['b'], ⟨3, 9⟩)] ∧
        ∃ spans, Met source 0 spans ∧ spans.length = 2 := by
  intro source
  have short : source.length < 2 ^ 31 := by decide +kernel
  obtain ⟨hlift, spans, hmet, -, -, -, hheld⟩ := lifted_exactly short
  refine ⟨short, lift source, hlift, by decide +kernel, by decide +kernel, spans, (hmet spans).mpr rfl, ?_⟩
  rw [← hheld.length_eq]
  decide +kernel

end

end WidgetTemplates.Template
