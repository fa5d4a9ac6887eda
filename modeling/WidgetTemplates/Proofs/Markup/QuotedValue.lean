import Mathlib.Data.List.TakeWhile
import WidgetTemplates.Markup.Scanner

/-!
# Values between double quotes

The scanner leaves an attribute value in double quotes at the first double quote, also out of the middle of a character
reference (`quotedValue?_delimited`): no text before it leads out of the states that a value is scanned in
(`InQuotes.step`). A text put between the quotes as it is is cut there, and what is left has its references decoded.
Without references the value is the text exactly if it has no double quote and no NUL
(`quotedValue?_eq_self_iff`).
-/

namespace WidgetTemplates.Markup

namespace Scanner

/-- Behind the opening double quote of a value. -/
def opened : Scanner := { state := .value .double }

/-- The states that a value in double quotes is scanned in: in its text, and in a character reference in it. -/
inductive InQuotes : State → Prop where
  | value : InQuotes (.value .double)
  | reference : InQuotes (.reference (.value .double))
  | named : InQuotes (.namedReference (.value .double))
  | numberStart : InQuotes (.numberStart (.value .double))
  | hexStart (mark : Char) : InQuotes (.hexStart (.value .double) mark)
  | decimal : InQuotes (.decimal (.value .double))
  | hex : InQuotes (.hex (.value .double))

/-! ## The states of a value -/

theorem state_foldl_pushValue (text : List Char) (s : Scanner) : (text.foldl pushValue s).state = s.state := by
  induction text generalizing s with
  | nil => rfl
  | cons c text ih => exact ih (s.pushValue c)

theorem state_resolve (quoting : Quoting) (text : List Char) (s : Scanner) :
    (resolve (.value quoting) text s).state = .value quoting :=
  state_foldl_pushValue text (s.goto (.value quoting))

theorem state_finishNamed (quoting : Quoting) (next : Option Char) (s : Scanner) :
    (finishNamed (.value quoting) next s).state = .value quoting := by
  rw [finishNamed]
  split
  · exact state_resolve ..
  · dsimp only
    split <;> split <;> exact state_resolve ..

theorem state_finishNumber (quoting : Quoting) (terminated : Bool) (s : Scanner) :
    (finishNumber (.value quoting) terminated s).state = .value quoting := by
  rw [finishNumber]
  exact state_resolve ..

/-- Without a double quote the scanner stays in the value. -/
theorem inQuotes_inValue {c : Char} (h : c ≠ '"') (s : Scanner) : InQuotes (inValue .double s c).state := by
  rw [inValue]
  split
  · exact .reference
  · rw [if_neg (by simpa using h)]
    exact .value

namespace InQuotes

variable {s : Scanner} {c : Char}

/-- A character other than a double quote goes on with the reference or with the value. -/
theorem step (inside : InQuotes s.state) (h : c ≠ '"') : InQuotes (s.step false c).state := by
  generalize hs : s.state = state at inside
  -- a reference goes on, or what has been read of it falls back into the value
  cases inside with
  | value =>
    simp only [Scanner.step, hs]
    exact inQuotes_inValue h s
  | reference =>
    simp only [Scanner.step, hs, afterAmpersand]
    split
    · exact .numberStart
    split
    · exact .named
    · exact inQuotes_inValue h _
  | named =>
    simp only [Scanner.step, hs, inNamed]
    split
    · exact .named
    split
    · rw [state_finishNamed]
      exact .value
    · exact inQuotes_inValue h _
  | numberStart =>
    simp only [Scanner.step, hs, afterNumberSign]
    split
    · exact .hexStart c
    split
    · exact .decimal
    · exact inQuotes_inValue h _
  | hexStart mark =>
    simp only [Scanner.step, hs, afterHexMark]
    split
    · exact .hex
    · exact inQuotes_inValue h _
  | decimal =>
    simp only [Scanner.step, hs, inDecimal]
    split
    · rw [pushDigit, hs]
      exact .decimal
    split
    · rw [state_finishNumber]
      exact .value
    · exact inQuotes_inValue h _
  | hex =>
    simp only [Scanner.step, hs, inHex]
    split
    · rw [pushDigit, hs]
      exact .hex
    split
    · rw [state_finishNumber]
      exact .value
    · exact inQuotes_inValue h _

/-- A double quote ends the value, and a reference before it. -/
theorem step_quote (inside : InQuotes s.state) : (s.step false '"').state = .afterValue := by
  generalize hs : s.state = state at inside
  cases inside <;> (rw [Scanner.step, hs]; rfl)

/-- Behind the value is none of these states. -/
theorem ne_afterValue (inside : InQuotes s.state) : s.state ≠ .afterValue := by
  intro h
  rw [h] at inside
  exact nomatch inside

end InQuotes

end Scanner

/-! ## Reading a value -/

open Scanner

/-- The value that is scanned from `s` on, and what follows its closing quote. -/
def quotedValue? (s : Scanner) : List Char → Option (List Char × List Char)
  | [] => none
  | c :: rest =>
    if (s.step false c).state = .afterValue then some ((s.step false c).attrValue.reverse, rest)
    else quotedValue? (s.step false c) rest

/-- The value that a text without double quotes amounts to. -/
def decodedValue (s : Scanner) (text : List Char) : List Char :=
  ((text.foldl (step false) s).step false '"').attrValue.reverse

/-- A value ends at the first double quote. -/
theorem quotedValue?_delimited {text : List Char} (h : '"' ∉ text) {s : Scanner}
    (inside : InQuotes s.state) (rest : List Char) :
    quotedValue? s (text ++ '"' :: rest) = some (decodedValue s text, rest) := by
  induction text generalizing s with
  | nil => rw [List.nil_append, quotedValue?, if_pos inside.step_quote]; rfl
  | cons c text ih =>
    rw [List.mem_cons, not_or] at h
    have hstays := inside.step (Ne.symm h.1)
    rw [List.cons_append, quotedValue?, if_neg hstays.ne_afterValue, ih h.2 hstays]
    rfl

/-- A text without double quote is taken as a whole. -/
theorem takeWhile_ne_quote {text : List Char} : text.takeWhile (· != '"') = text ↔ '"' ∉ text := by
  simp [List.takeWhile_eq_self_iff, List.forall_mem_ne']

/-- What a text amounts to when it is put between the quotes as it is. -/
theorem quotedValue?_cut (text rest : List Char) :
    (quotedValue? opened (text ++ '"' :: rest)).map Prod.fst =
      some (decodedValue opened (text.takeWhile (· != '"'))) := by
  by_cases h : '"' ∈ text
  · obtain ⟨front, back, rfl, hfront⟩ := List.eq_append_cons_of_mem h
    rw [List.append_assoc, List.cons_append, quotedValue?_delimited hfront .value,
      List.takeWhile_append_of_pos (fun c hc => by simpa using fun hquote : c = '"' => hfront (hquote ▸ hc)),
      List.takeWhile_cons_of_neg (by simp), List.append_nil]
    rfl
  · rw [quotedValue?_delimited h .value, takeWhile_ne_quote.mpr h]
    rfl

/-! ## Values without references -/

/-- A character that is neither quote nor ampersand joins the value. -/
theorem step_text {s : Scanner} (hs : s.state = .value .double) {c : Char} (hquote : c ≠ '"') (hamp : c ≠ '&') :
    s.step false c = s.pushValue (cleaned c) := by
  rcases s with ⟨state⟩
  obtain rfl : state = .value .double := hs
  simp [step, inValue, goto, hquote, hamp]

/-- A text with neither quote nor ampersand joins the value. -/
theorem foldl_step_text {text : List Char} (hquote : '"' ∉ text) (hamp : '&' ∉ text) {s : Scanner}
    (hs : s.state = .value .double) :
    text.foldl (step false) s = { s with attrValue := (text.map cleaned).reverse ++ s.attrValue } := by
  induction text generalizing s with
  | nil => rfl
  | cons c text ih =>
    rw [List.mem_cons, not_or] at hquote hamp
    rw [List.foldl_cons, step_text hs (Ne.symm hquote.1) (Ne.symm hamp.1), ih hquote.2 hamp.2 (s := s.pushValue _) hs]
    simp [pushValue]

/-- A text without double quotes and references is the value, but for its NULs. -/
theorem decodedValue_text {text : List Char} (hquote : '"' ∉ text) (hamp : '&' ∉ text) :
    decodedValue opened text = text.map cleaned := by
  rw [decodedValue, foldl_step_text hquote hamp rfl]
  simp [opened, step, inValue, goto]

/-- Only NUL is replaced. -/
theorem cleaned_eq_self_iff {c : Char} : cleaned c = c ↔ c ≠ '\x00' := by
  by_cases h : c = '\x00'
  · subst h
    decide
  · simp [cleaned, h]

/-- A text stays as it is exactly if it has no NUL. -/
theorem map_cleaned_eq_self_iff {text : List Char} : text.map cleaned = text ↔ '\x00' ∉ text := by
  have hid : text.map cleaned = text.map id ↔ ∀ c ∈ text, c ≠ '\x00' := by
    simp only [List.map_inj_left, id, cleaned_eq_self_iff]
  rw [List.map_id] at hid
  rw [hid, List.forall_mem_ne']

/-- **A text without references is the value exactly if it has no double quote and no NUL.** -/
theorem quotedValue?_eq_self_iff {text : List Char} (hamp : '&' ∉ text) (rest : List Char) :
    (quotedValue? opened (text ++ '"' :: rest)).map Prod.fst = some text ↔ '"' ∉ text ∧ '\x00' ∉ text := by
  have hfront : text.takeWhile (· != '"') <+: text := List.takeWhile_prefix _
  have hquote : '"' ∉ text.takeWhile (· != '"') := fun h => by simpa using List.all_eq_true.mp List.all_takeWhile _ h
  rw [quotedValue?_cut, decodedValue_text hquote (fun h => hamp (hfront.subset h)), Option.some_inj]
  constructor
  · intro h
    have hwhole : text.takeWhile (· != '"') = text := hfront.eq_of_length (by simpa using congrArg List.length h)
    rw [hwhole] at h hquote
    exact ⟨hquote, map_cleaned_eq_self_iff.mp h⟩
  · rintro ⟨hnone, hnul⟩
    rw [takeWhile_ne_quote.mpr hnone, map_cleaned_eq_self_iff.mpr hnul]

end WidgetTemplates.Markup
