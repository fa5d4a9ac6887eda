import WidgetTemplates.Proofs.Script.StringLiteral

/-!
# Quoted texts

A quoted text is a literal that stands for the text and for nothing else (`quote_faithful`). Its characters are escaped
one by one: in none of the pieces is there a bare quote (`StaysQuoted`), and none has a control character or a line
separator. The separators may as well be escaped after everything else, in a text that is quoted already
(`quote_eq_expand`), since no other escape has one and their own escapes are not escaped again.
-/

namespace WidgetTemplates.Script

/-! ## Bare quotes -/

/-- Whether a text has a double quote that no backslash escapes. `escaped` says whether a backslash in front of the
text escapes its first character. -/
def hasBareQuote (escaped : Bool) : List Char → Bool
  | [] => false
  | c :: rest => !escaped && c == '"' || hasBareQuote (!escaped && c == '\\') rest

/-- In a text that stays in a string there is no bare quote. -/
theorem StaysQuoted.hasBareQuote {text : List Char} (h : StaysQuoted text) : hasBareQuote false text = false := by
  induction h with
  | nil => rfl
  | char quiet _ ih => simp [Script.hasBareQuote, beq_false_of_ne quiet.1, beq_false_of_ne quiet.2, ih]
  | escape c _ ih => simpa [Script.hasBareQuote] using ih

/-! ## Characters -/

/-- A character that may stand in a literal as it is, as far as lines are concerned. -/
def IsInline (c : Char) : Prop := 0x20 ≤ c.toNat ∧ c ≠ '\u2028' ∧ c ≠ '\u2029'

instance (c : Char) : Decidable (IsInline c) := inferInstanceAs (Decidable (_ ∧ _))

/-- The digits of a code stand on one line. -/
theorem isInline_hex4 {n : Nat} {c : Char} (h : c ∈ Json.hex4 n) : IsInline c := by
  have hdigit : ∀ d < 16, IsInline (Nat.digitChar d) := by decide
  obtain ⟨d, hd, rfl⟩ := List.mem_map.mp h
  refine hdigit d ?_
  simp only [List.mem_cons, List.not_mem_nil, or_false] at hd
  omega

-- Stated with `all`, since a statement about every character of a list may be decided over all characters.
theorem isInline_of_all {l : List Char} (h : l.all (IsInline ·) = true) {c : Char} (hc : c ∈ l) : IsInline c :=
  of_decide_eq_true (List.all_eq_true.mp h c hc)

/-- No control character and no line separator is left. -/
theorem isInline_escapeChar {c d : Char} (h : d ∈ escapeChar c) : IsInline d := by
  rw [escapeChar] at h
  split at h
  · exact isInline_of_all (by decide) h
  next hline =>
  split at h
  · exact isInline_of_all (by decide) h
  next hparagraph =>
  by_cases hmark : c ∈ Json.escapedMarks
  · have hall : (Json.escapedMarks.all fun c => (Json.escapeChar c).all (IsInline ·)) = true := by decide
    exact isInline_of_all (List.all_eq_true.mp hall c hmark) h
  rw [Json.escapeChar_of_notMem hmark] at h
  split at h
  · rcases List.mem_cons.mp h with rfl | h
    · decide
    rcases List.mem_cons.mp h with rfl | h
    · decide
    · exact isInline_hex4 h
  next hcontrol =>
    obtain rfl := List.mem_singleton.mp h
    exact ⟨Nat.not_lt.mp hcontrol, by simpa using hline, by simpa using hparagraph⟩

/-- An escaped text stands on one line. -/
theorem isInline_escape {s : List Char} {c : Char} (h : c ∈ escape s) : IsInline c := by
  obtain ⟨_, -, h⟩ := List.mem_flatMap.mp h
  exact isInline_escapeChar h

/-! ## Literals -/

/-- **A quoted text is a literal that stands for the text**: between its quotes there is no bare quote, no control
character and no line separator, it is read back, and what is quoted ends where its literal ends. -/
theorem quote_faithful (s : String) :
    ∃ body, (quote s).toList = '"' :: (body ++ ['"']) ∧
      hasBareQuote false body = false ∧
      (∀ c ∈ body, 0x20 ≤ c.toNat ∧ c ≠ '\u2028' ∧ c ≠ '\u2029') ∧
      literalText? (body ++ ['"']) = some (s.toList, []) ∧
      ∀ t rest more : String, quote s ++ rest = quote t ++ more ↔ s = t ∧ rest = more := by
  refine ⟨escape s.toList, toList_quote s, (staysQuoted_escape _).hasBareQuote, fun _ => isInline_escape,
    literalText?_escape _ _, fun t rest more => ⟨fun h => ?_, ?_⟩⟩
  · have hlist := congrArg String.toList h
    rw [String.toList_append, String.toList_append] at hlist
    exact (quote_append_inj hlist).imp id fun hrest => String.toList_injective hrest
  · rintro ⟨rfl, rfl⟩
    rfl

/-! ## Separators afterwards -/

/-- A character, spelled out if it is `mark`. -/
def spellOut (mark : Char) (spelling : List Char) (c : Char) : List Char := if c == mark then spelling else [c]

/-- A text without the mark is not spelled otherwise. -/
theorem flatMap_spellOut_of_notMem {mark : Char} {s : List Char} (spelling : List Char) (h : mark ∉ s) :
    s.flatMap (spellOut mark spelling) = s := by
  induction s with
  | nil => rfl
  | cons c s ih =>
    rw [List.mem_cons, not_or] at h
    simp [spellOut, Ne.symm h.1, ih h.2]

/-- A separator is a character of no escape. -/
theorem notMem_jsonEscapeChar {c d : Char} (hd : d = '\u2028' ∨ d = '\u2029') (h : c ≠ d) :
    d ∉ Json.escapeChar c := by
  intro hmem
  have hescape : Json.escapeChar c = escapeChar c ∨ c = '\u2028' ∨ c = '\u2029' := by
    grind [escapeChar]
  rcases hescape with hescape | hseparator
  · rw [hescape] at hmem
    obtain ⟨-, hline, hparagraph⟩ := isInline_escapeChar hmem
    exact hd.elim hline hparagraph
  · rcases hseparator with rfl | rfl
    · exact h (List.mem_singleton.mp hmem).symm
    · exact h (List.mem_singleton.mp hmem).symm

/-- The separators may be escaped after everything else, in the quoted text, one after the other. -/
theorem quote_eq_expand (s : String) :
    quote s = Text.expand (spellOut '\u2029' ['\\', 'u', '2', '0', '2', '9'])
      (Text.expand (spellOut '\u2028' ['\\', 'u', '2', '0', '2', '8']) (Json.quote s)) := by
  have hpieces (c : Char) : ((Json.escapeChar c).flatMap (spellOut '\u2028' ['\\', 'u', '2', '0', '2', '8'])).flatMap
      (spellOut '\u2029' ['\\', 'u', '2', '0', '2', '9']) = escapeChar c := by
    by_cases hline : c = '\u2028'
    · subst hline
      decide
    by_cases hparagraph : c = '\u2029'
    · subst hparagraph
      decide
    rw [flatMap_spellOut_of_notMem _ (notMem_jsonEscapeChar (.inl rfl) hline),
      flatMap_spellOut_of_notMem _ (notMem_jsonEscapeChar (.inr rfl) hparagraph)]
    simp [escapeChar, hline, hparagraph]
  have htext : ((s.toList.flatMap Json.escapeChar).flatMap (spellOut '\u2028' ['\\', 'u', '2', '0', '2', '8'])).flatMap
      (spellOut '\u2029' ['\\', 'u', '2', '0', '2', '9']) = escape s.toList := by
    rw [List.flatMap_assoc, List.flatMap_assoc]
    exact congrArg (s.toList.flatMap ·) (funext fun c => (List.flatMap_assoc ..).symm.trans (hpieces c))
  refine String.toList_injective ?_
  rw [toList_quote, ← htext]
  simp [Json.quote, Text.expand, spellOut]

end WidgetTemplates.Script
