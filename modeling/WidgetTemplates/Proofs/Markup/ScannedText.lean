import Mathlib.Data.List.Forall2
import WidgetTemplates.Markup.Escape
import WidgetTemplates.Markup.Scanner

/-!
# Escaped text

`scannedText` is what the scanner reads in markup as ordinary text: its characters, with the references decoded. An
escaped text is read as the text itself (`scannedText_escaped`), since each character of the text is written as a piece
of markup that yields this character and leaves the scanner where it was (`yields_escapeTextChar`).

What a reference stands for is looked up in the table of names. The table is a list of string literals, whose characters
are slow to compute but quick to compare with given ones, so the lines are spelled out first
(`longestReference?_of_spelled`).
-/

namespace WidgetTemplates.Markup

/-! ## The table, line by line -/

/-- The entries of a line of the table that is given by its characters. -/
def spelledEntries (line : List Char) : List (List Char × List Char) :=
  (pieces ' ' line).filterMap fun entry =>
    match pieces '=' entry with
    | [name, codes] => some (name, (pieces '+' codes).map fun d => Char.ofNat (hexNumber d))
    | _ => none

/-- The entry of the longest name that a text begins with. -/
def longestEntry? (entries : List (List Char × List Char)) (text : List Char) : Option (List Char × List Char) :=
  entries.foldl
    (fun best entry =>
      if entry.1.isPrefixOf text then
        match best with
        | some b => if b.1.length < entry.1.length then some entry else best
        | none => some entry
      else best)
    none

/-- The entries of the table are those of its spelled rows. -/
theorem flatMap_readEntries {rows : List String} {lines : List (List Char)}
    (spelled : List.Forall₂ (fun row line => row = String.ofList line) rows lines) :
    rows.flatMap readEntries = lines.flatMap spelledEntries := by
  induction spelled with
  | nil => rfl
  | cons hrow _ ih =>
    rw [List.flatMap_cons, List.flatMap_cons, ih, hrow, readEntries, String.toList_ofList]
    rfl

/-- The longest reference in a text is found in the spelled rows of its first character. -/
theorem longestReference?_of_spelled {c : Char} {text : List Char} {found : Option (List Char × List Char)}
    {lines : List (List Char)}
    (spelled : List.Forall₂ (fun row line => row = String.ofList line) (referenceRows c) lines)
    (longest : longestEntry? (lines.flatMap spelledEntries) (c :: text) = found) :
    longestReference? (c :: text) = found := by
  rw [longestReference?, flatMap_readEntries spelled, ← longest]
  rfl

theorem longestReference?_amp : longestReference? ['a', 'm', 'p', ';'] = some (['a', 'm', 'p', ';'], ['&']) := by
  apply longestReference?_of_spelled
  · repeat' first | exact rfl | constructor
  · decide +kernel

theorem longestReference?_lt : longestReference? ['l', 't', ';'] = some (['l', 't', ';'], ['<']) := by
  apply longestReference?_of_spelled
  · repeat' first | exact rfl | constructor
  · decide +kernel

theorem longestReference?_gt : longestReference? ['g', 't', ';'] = some (['g', 't', ';'], ['>']) := by
  apply longestReference?_of_spelled
  · repeat' first | exact rfl | constructor
  · decide +kernel

/-! ## Pieces of ordinary text -/

/-- The token of a character. -/
def charToken (c : Char) : Token := if c == '\x00' then .nul else .char c

/-- The character of a token, if it is one. -/
def Token.character? : Token → Option Char
  | .char c => some c
  | .nul => some '\x00'
  | _ => none

/-- The token of a character has the character. -/
theorem character?_charToken (c : Char) : (charToken c).character? = some c := by
  rw [charToken]
  split
  · next h => rw [eq_of_beq h]; rfl
  · rfl

namespace Scanner

/-- In ordinary text a piece of markup yields a character, and the scanner stays in ordinary text. -/
def Yields (piece : List Char) (c : Char) : Prop :=
  ∀ s : Scanner, s.state = .data →
    (piece.foldl (step false) s).state = .data ∧ (piece.foldl (step false) s).output = charToken c :: s.output

/-- A character other than ampersand and less-than sign yields itself. -/
theorem yields_self {c : Char} (amp : c ≠ '&') (less : c ≠ '<') : Yields [c] c := by
  intro s hs
  have hstep : s.step false c = s.emitChar c := by
    rw [step, hs]
    simp [inData, amp, less]
  rw [List.foldl_cons, List.foldl_nil, hstep]
  exact ⟨hs, rfl⟩

/-- Letters and digits are gathered for the name of a reference. -/
theorem foldl_step_name {name : List Char} (letters : ∀ c ∈ name, c.isAlphanum = true) {s : Scanner}
    (hs : s.state = .namedReference .text) :
    name.foldl (step false) s = { s with buffer := name.reverse ++ s.buffer } := by
  induction name generalizing s with
  | nil => rfl
  | cons c name ih =>
    obtain ⟨hc, hname⟩ := List.forall_mem_cons.mp letters
    have hstep : s.step false c = { s with buffer := c :: s.buffer } := by
      have hnamed : s.step false c = inNamed .text s c := by rw [step, hs]
      rw [hnamed, inNamed, if_pos hc]
    rw [List.foldl_cons, hstep, ih hname (s := { s with buffer := c :: s.buffer }) hs]
    simp

/-- A reference yields the character that its name stands for. -/
theorem yields_reference (name : List Char) {c : Char} (nonempty : name ≠ [])
    (letters : name.all Char.isAlphanum = true)
    (found : longestReference? (name ++ [';']) = some (name ++ [';'], [c])) :
    Yields ('&' :: (name ++ [';'])) c := by
  obtain ⟨first, more, rfl⟩ := List.exists_cons_of_ne_nil nonempty
  obtain ⟨letter, hmore⟩ := List.forall_mem_cons.mp (List.all_eq_true.mp letters)
  intro s hs
  have hamp : s.step false '&' = s.goto (.reference .text) := by
    rw [step, hs]
    rfl
  have hfirst : (s.goto (.reference .text)).step false first =
      { s with state := .namedReference .text, buffer := [first] } := by
    have hnumber : first ≠ '#' := by
      rintro rfl
      exact absurd letter (by decide)
    simp [step, goto, afterAmpersand, hnumber, letter]
  -- the semicolon ends the name, and nothing of what was gathered is left
  have hend : ∀ s' : Scanner, s'.state = .namedReference .text → s'.buffer = (first :: more).reverse →
      s'.step false ';' = ({ s' with buffer := ';' :: s'.buffer }.goto .data).emitChar c := by
    intro s' hs' hbuffer
    have hname : (';' :: s'.buffer).reverse = first :: more ++ [';'] := by simp [hbuffer]
    have hletter : (';' : Char).isAlphanum = false := by decide
    rw [step, hs']
    simp only [inNamed, hletter, Bool.false_eq_true, if_false, beq_self_eq_true, if_true, finishNamed, hname, found,
      List.drop_length, Bool.false_and, List.append_nil, resolve]
    rfl
  rw [List.foldl_cons, hamp, List.foldl_append, List.foldl_cons, List.foldl_nil, List.foldl_cons, hfirst,
    foldl_step_name hmore rfl, hend _ rfl (by simp)]
  exact ⟨rfl, rfl⟩

/-- Every character of a text is written as markup that yields it. -/
theorem yields_escapeTextChar (c : Char) : Yields (escapeTextChar c) c := by
  rw [escapeTextChar]
  split
  · next h =>
    rw [eq_of_beq h]
    exact yields_reference ['a', 'm', 'p'] (List.cons_ne_nil _ _) rfl longestReference?_amp
  split
  · next h =>
    rw [eq_of_beq h]
    exact yields_reference ['l', 't'] (List.cons_ne_nil _ _) rfl longestReference?_lt
  split
  · next h =>
    rw [eq_of_beq h]
    exact yields_reference ['g', 't'] (List.cons_ne_nil _ _) rfl longestReference?_gt
  · next hamp hless _ => exact yields_self (by simpa using hamp) (by simpa using hless)

/-- A text of pieces yields its characters one after another. -/
theorem foldl_step_pieces {pieceOf : Char → List Char} (yields : ∀ c, Yields (pieceOf c) c) (text : List Char)
    {s : Scanner} (hs : s.state = .data) :
    ((text.flatMap pieceOf).foldl (step false) s).state = .data ∧
      ((text.flatMap pieceOf).foldl (step false) s).output = (text.map charToken).reverse ++ s.output := by
  induction text generalizing s with
  | nil => exact ⟨hs, rfl⟩
  | cons c text ih =>
    obtain ⟨hstate, houtput⟩ := yields c s hs
    obtain ⟨hend, htokens⟩ := ih hstate
    rw [List.flatMap_cons, List.foldl_append]
    refine ⟨hend, ?_⟩
    rw [htokens, houtput, List.map_cons, List.reverse_cons, List.append_assoc]
    rfl

end Scanner

/-! ## Texts -/

/-- The characters that the scanner reads in markup as ordinary text. -/
def scannedText (markup : List Char) : List Char :=
  (markup.foldl (Scanner.step false) {}).finish.output.reverse.filterMap Token.character?

/-- **An escaped text is read as the text itself.** -/
theorem scannedText_escaped (text : List Char) : scannedText (text.flatMap escapeTextChar) = text := by
  obtain ⟨hstate, houtput⟩ := Scanner.foldl_step_pieces Scanner.yields_escapeTextChar text (s := {}) rfl
  have hfinish : ∀ s : Scanner, s.state = .data → s.finish.output = .stop :: s.output := by
    intro s hs
    rw [Scanner.finish, hs]
    rfl
  have hcharacters : (text.map charToken).filterMap Token.character? = text := by
    rw [List.filterMap_map, Function.comp_def]
    simp only [character?_charToken, List.filterMap_some]
  rw [scannedText, hfinish _ hstate, houtput, List.append_nil, List.reverse_cons, List.reverse_reverse,
    List.filterMap_append, hcharacters]
  exact List.append_nil text

/-! ## Texts that are escaped as themselves -/

/-- The characters that are written as references. -/
def markupChars : List Char := ['&', '<', '>']

/-- A character that means nothing in markup is not escaped. -/
theorem escapeTextChar_eq {c : Char} (plain : c ∉ markupChars) : escapeTextChar c = [c] := by
  simp only [markupChars, List.mem_cons, List.not_mem_nil, or_false, not_or] at plain
  simp [escapeTextChar, plain]

/-- An escaped character that is one of markup is longer than itself. -/
theorem one_lt_length_escapeTextChar {c : Char} (h : c ∈ markupChars) : 1 < (escapeTextChar c).length := by
  simp only [markupChars, List.mem_cons, List.not_mem_nil, or_false] at h
  rcases h with rfl | rfl | rfl <;> decide

/-- Escaping makes no text shorter. -/
theorem length_le_flatMap_escapeTextChar (text : List Char) : text.length ≤ (text.flatMap escapeTextChar).length := by
  induction text with
  | nil => exact Nat.le_refl _
  | cons c text ih =>
    have hc : 1 ≤ (escapeTextChar c).length := by
      by_cases h : c ∈ markupChars
      · exact Nat.le_of_lt (one_lt_length_escapeTextChar h)
      · simp [escapeTextChar_eq h]
    rw [List.flatMap_cons, List.length_append, List.length_cons]
    omega

/-- An escaped text is the text itself exactly if nothing in it is written as a reference. -/
theorem flatMap_escapeTextChar_eq_self_iff {text : List Char} :
    text.flatMap escapeTextChar = text ↔ ∀ c ∈ text, c ∉ markupChars := by
  induction text with
  | nil => simp
  | cons c text ih =>
    rw [List.forall_mem_cons, ← ih, List.flatMap_cons]
    by_cases h : c ∈ markupChars
    · refine iff_of_false (fun heq => ?_) (fun hplain => hplain.1 h)
      have hlength := congrArg List.length heq
      have hc := one_lt_length_escapeTextChar h
      have hrest := length_le_flatMap_escapeTextChar text
      rw [List.length_append, List.length_cons] at hlength
      omega
    · rw [escapeTextChar_eq h, List.singleton_append, List.cons_inj_right]
      exact (and_iff_right h).symm

end WidgetTemplates.Markup
