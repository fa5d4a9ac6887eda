import Mathlib.Data.List.TakeDrop
import WidgetTemplates.Json.Printer
import WidgetTemplates.Json.Reader
import WidgetTemplates.Proofs.Text.Decimal

/-!
# Printed JSON is read back

The compact text of a value denotes this value, also after some characters of the text have been spelled otherwise
(`readWithin?_spelled`). A `Respelling` changes only characters that the printer writes nowhere but inside strings, and
puts there what stands for the character inside a string.

The values are those whose only numbers are integers (`Json.Exact`). A reader may bound how deep containers nest, so
the result holds for every bound that the value stays below.
-/

namespace WidgetTemplates.Json

open Reader

/-! ## Values and readers -/

/-- A value whose only numbers are integers that fit 64 bits, signed or unsigned, and whose objects have distinct
keys. -/
inductive Exact : Json → Prop where
  | null : Exact .null
  | bool (value : Bool) : Exact (.bool value)
  | int (value : Int) (low : -0x8000000000000000 ≤ value) (high : value ≤ wordMax) : Exact (.int value)
  | string (value : String) : Exact (.string value)
  | array (items : List Json) (each : ∀ item ∈ items, Exact item) : Exact (.array items)
  | object (members : Members) (distinct : (members.map Prod.fst).Nodup) (each : ∀ m ∈ members, Exact m.2) :
      Exact (.object members)

mutual

/-- How deep containers nest. -/
def nesting : Json → Nat
  | .array items => nestingItems items + 1
  | .object members => nestingMembers members + 1
  | _ => 0

/-- How deep containers nest in the items of an array. -/
def nestingItems : List Json → Nat
  | [] => 0
  | item :: rest => max (nesting item) (nestingItems rest)

/-- How deep containers nest in the members of an object. -/
def nestingMembers : List (String × Json) → Nat
  | [] => 0
  | (_, value) :: rest => max (nesting value) (nestingMembers rest)

end

/-- The value that a text denotes, if its containers nest less than `depth` deep. -/
def readWithin? (depth : Nat) (s : String) : Option Json :=
  match value? (2 * s.toList.length + 2) depth s.toList with
  | some (value, rest) => if (skipBlanks rest).isEmpty then some value else none
  | none => none

/-- The reader of the project allows 127 levels. -/
theorem read?_eq_readWithin? (s : String) : read? s = readWithin? 128 s := rfl

/-! ## Numbers -/

/-- What may follow a value: nothing, or the character that goes on or ends its container. -/
def Ends (rest : List Char) : Prop := ∀ c ∈ rest.head?, c = ',' ∨ c = ']' ∨ c = '\x7d'

theorem ends_nil : Ends [] := by simp [Ends]

/-- A value ends before a comma or a closing bracket. -/
theorem ends_cons {c : Char} {rest : List Char} (h : c = ',' ∨ c = ']' ∨ c = '\x7d') : Ends (c :: rest) := by
  simpa [Ends] using h

variable {rest : List Char}

/-- No digit stands where a value ends. -/
theorem Ends.head_isDigit (h : Ends rest) : rest.head?.any Char.isDigit = false := by
  rcases rest with _ | ⟨c, rest⟩
  · rfl
  · rcases h c rfl with rfl | rfl | rfl <;> rfl

/-- Digits are gathered as long as their number fits a word. -/
theorem gather_eq {digits : List Char} {n : Nat} (h : Nat.ofDigitChars 10 digits n ≤ wordMax) :
    gather n digits = (Nat.ofDigitChars 10 digits n, []) := by
  induction digits generalizing n with
  | nil => rfl
  | cons c digits ih =>
    have hnext : n * 10 + digitValue c = 10 * n + (c.toNat - '0'.toNat) := by rw [Nat.mul_comm]; rfl
    rw [Nat.ofDigitChars_cons] at h ⊢
    have hgrows : n * 10 + digitValue c ≤ wordMax := by
      rw [hnext]
      rw [Nat.ofDigitChars_eq_ofDigitChars_zero] at h
      have hpow : 0 < 10 ^ digits.length := Nat.pow_pos (by omega)
      exact Nat.le_trans (Nat.le_trans (Nat.le_mul_of_pos_left _ hpow) (Nat.le_add_right _ _)) h
    rw [gather, if_pos hgrows, hnext]
    exact ih h

/-- The digits of a number are read to their end. -/
theorem unsigned?_toString {n : Nat} (fits : n ≤ wordMax) (ends : Ends rest) (negative : Bool) :
    unsigned? negative ((toString n).toList ++ rest) = unsigned?.whole negative n 0 rest := by
  have hspan : spanDigits ((toString n).toList ++ rest) = ((toString n).toList, rest) := by
    rw [spanDigits, List.span_eq_takeWhile_dropWhile, Text.takeWhile_toString_append ends.head_isDigit,
      Text.dropWhile_toString_append ends.head_isDigit]
  have hgather : gather 0 (toString n).toList = (n, []) := by
    have hvalue : Nat.ofDigitChars 10 (toString n).toList 0 = n := by
      rw [Nat.toString_eq_repr, Nat.toList_repr, Nat.ofDigitChars_ten_toDigits]
    rw [gather_eq (by rw [hvalue]; exact fits), hvalue]
  have hzero : ¬ ((toString n).toList.length > 1 && (toString n).toList.head? == some '0') = true := by
    rw [Bool.and_eq_true, not_and]
    intro hlong hhead
    obtain rfl := Text.eq_zero_of_head?_toString (by simpa using hhead)
    exact absurd hlong (by decide)
  obtain ⟨d, ds, hds⟩ := List.exists_cons_of_ne_nil (Text.toList_toString_ne_nil n)
  rw [unsigned?, hspan, hds]
  simp only
  rw [← hds, if_neg hzero, hgather]
  rcases rest with _ | ⟨c, rest⟩
  · rfl
  · rcases ends c rfl with rfl | rfl | rfl <;> rfl

/-- An integer that fits 64 bits is read back. -/
theorem number?_toString {n : Int} (low : -0x8000000000000000 ≤ n) (high : n ≤ wordMax) (ends : Ends rest) :
    number? ((toString n).toList ++ rest) = some (.int n, rest) := by
  rw [Int.toString_eq_repr, Int.repr_eq_if]
  by_cases hn : 0 ≤ n
  · rw [if_pos hn, ← Nat.toString_eq_repr]
    have hfits : n.toNat ≤ wordMax := by omega
    -- a number without a sign begins with a digit, which is no minus sign
    obtain ⟨d, ds, hds⟩ := List.exists_cons_of_ne_nil (Text.toList_toString_ne_nil n.toNat)
    have hsign : d ≠ '-' := by
      rintro rfl
      exact absurd (Text.isDigit_of_mem_toString (n := n.toNat) (by rw [hds]; exact List.mem_cons_self)) (by decide)
    have hdigits : number? ((toString n.toNat).toList ++ rest) =
        unsigned? false ((toString n.toNat).toList ++ rest) := by
      rw [hds, List.cons_append, number?]
      simpa using hsign
    rw [hdigits, unsigned?_toString hfits ends]
    simp [unsigned?.whole, Int.toNat_of_nonneg hn]
  · rw [if_neg hn, ← Nat.toString_eq_repr]
    have hfits : (-n).toNat ≤ wordMax := by
      have : (-n).toNat ≤ 0x8000000000000000 := by omega
      exact Nat.le_trans this (by decide)
    have hdigits : number? (("-" ++ toString (-n).toNat).toList ++ rest) =
        unsigned? true ((toString (-n).toNat).toList ++ rest) := by
      rw [String.toList_append, List.append_assoc]
      rfl
    rw [hdigits, unsigned?_toString hfits ends]
    have hpos : (-n).toNat ≠ 0 := by omega
    have hbound : ¬ 0x8000000000000000 < (-n).toNat := by omega
    simp [unsigned?.whole, hpos, hbound]
    omega

/-! ## Strings -/

/-- Inside a string a piece of text stands for a character. -/
def StandsFor (part : List Char) (c : Char) : Prop :=
  ∀ (fuel : Nat) (done rest : List Char),
    stringBody? (fuel + 1) done (part ++ rest) = stringBody? fuel (c :: done) rest

/-- A character that is neither a quote, a backslash nor a control character stands for itself. -/
theorem standsFor_self {c : Char} (hquote : c ≠ '"') (hslash : c ≠ '\\') (hcontrol : ¬ c.toNat < 0x20) :
    StandsFor [c] c := by
  intro fuel done rest
  rw [List.singleton_append, stringBody?, if_neg (by simpa [hslash] using hcontrol)]
  · exact hquote
  · exact fun _ h _ => hslash h
  · exact fun _ _ h _ => hslash h

/-- A hexadecimal digit has its value. -/
theorem hexValue?_digitChar {d : Nat} (h : d < 16) : hexValue? (Nat.digitChar d) = some d := by
  have hall : ∀ d < 16, hexValue? (Nat.digitChar d) = some d := by decide
  exact hall d h

/-- Four digits give the code unit that they were written for. -/
theorem hexUnit?_hex4 {n : Nat} (h : n < 0x10000) (rest : List Char) : hexUnit? (hex4 n ++ rest) = some (n, rest) := by
  have hvalue : ((n / 4096 % 16 * 16 + n / 256 % 16) * 16 + n / 16 % 16) * 16 + n % 16 = n := by omega
  simp [hex4, hexUnit?, hexValue?_digitChar (Nat.mod_lt _ (show 0 < 16 by omega)), hvalue]

/-- A character below the surrogates may be written by its code. -/
theorem standsFor_hex4 {c : Char} (h : c.toNat < 0xD800) : StandsFor ('\\' :: 'u' :: hex4 c.toNat) c := by
  intro fuel done rest
  have hunit := hexUnit?_hex4 (show c.toNat < 0x10000 by omega) rest
  have hescape : unicodeEscape? (hex4 c.toNat ++ rest) = some (c, rest) := by
    have hlow : ¬ (0xDC00 ≤ c.toNat ∧ c.toNat ≤ 0xDFFF) := by omega
    have hhigh : ¬ (0xD800 ≤ c.toNat ∧ c.toNat ≤ 0xDBFF) := by omega
    simp [unicodeEscape?, hunit, hlow, hhigh, Char.ofNat_toNat]
  simp [stringBody?, hescape]

/-- The characters that are printed with an escape of their own. -/
def escapedMarks : List Char := ['"', '\\', '\x08', '\x0c', '\n', '\r', '\t']

/-- Any character but the marks is written as it is, or as a code if it is a control character. -/
theorem escapeChar_of_notMem {c : Char} (h : c ∉ escapedMarks) :
    escapeChar c = if c.toNat < 0x20 then '\\' :: 'u' :: hex4 c.toNat else [c] := by
  simp only [escapedMarks, List.mem_cons, List.not_mem_nil, or_false, not_or] at h
  simp [escapeChar, h]

/-- The printed form of a character stands for it. -/
theorem standsFor_escapeChar (c : Char) : StandsFor (escapeChar c) c := by
  by_cases hmark : c ∈ escapedMarks
  · simp only [escapedMarks, List.mem_cons, List.not_mem_nil, or_false] at hmark
    rcases hmark with rfl | rfl | rfl | rfl | rfl | rfl | rfl <;> exact fun _ _ _ => rfl
  · rw [escapeChar_of_notMem hmark]
    by_cases hcontrol : c.toNat < 0x20
    · rw [if_pos hcontrol]
      exact standsFor_hex4 (by omega)
    · rw [if_neg hcontrol]
      simp only [escapedMarks, List.mem_cons, not_or] at hmark
      exact standsFor_self hmark.1 hmark.2.1 hcontrol

/-- A character is written with some character. -/
theorem StandsFor.ne_nil {part : List Char} {c : Char} (h : StandsFor part c) : part ≠ [] := by
  rintro rfl
  have hread := h 1 [] ['"']
  simp [stringBody?] at hread

/-! ## Other spellings -/

/-- A character that is printed outside strings or in the escapes of strings. -/
def isFrame (c : Char) : Bool := c.isAlphanum || "\"\\,:[]\x7b\x7d-".toList.contains c

/-- A way to spell characters inside strings otherwise: the rest of the text is left alone, and what is put in the place
of a character stands for it. -/
structure Respelling (spell : Char → List Char) : Prop where
  frame : ∀ c, isFrame c = true → spell c = [c]
  standsFor : ∀ c, spell c ≠ [c] → StandsFor (spell c) c

/-- The characters of a text, spelled otherwise. -/
def spelled (spell : Char → List Char) (s : String) : List Char := s.toList.flatMap spell

@[simp] theorem spelled_append (spell : Char → List Char) (s t : String) :
    spelled spell (s ++ t) = spelled spell s ++ spelled spell t := by
  simp [spelled]

/-- A text inside a string, with the spelling applied to what is printed for each character. -/
def spelledBody (spell : Char → List Char) (s : List Char) : List Char :=
  s.flatMap fun c => (escapeChar c).flatMap spell

section Spelled

variable {spell : Char → List Char} (h : Respelling spell)
include h

/-- Text outside strings is not spelled otherwise. -/
theorem flatMap_of_frame {text : List Char} (frame : ∀ c ∈ text, isFrame c = true) : text.flatMap spell = text := by
  induction text with
  | nil => rfl
  | cons c text ih =>
    obtain ⟨hc, htext⟩ := List.forall_mem_cons.mp frame
    rw [List.flatMap_cons, h.frame c hc, ih htext, List.singleton_append]

/-- A text without strings is not spelled otherwise. -/
theorem spelled_of_frame {s : String} (frame : s.toList.all isFrame = true) : spelled spell s = s.toList :=
  flatMap_of_frame h (List.all_eq_true.mp frame)

/-- What is printed for a character stands for it in any spelling. -/
theorem standsFor_spelled (c : Char) : StandsFor ((escapeChar c).flatMap spell) c := by
  have hescape : (∀ d ∈ escapeChar c, isFrame d = true) → StandsFor ((escapeChar c).flatMap spell) c := by
    intro frame
    rw [flatMap_of_frame h frame]
    exact standsFor_escapeChar c
  by_cases hmark : c ∈ escapedMarks
  · have hall : (escapedMarks.all fun c => (escapeChar c).all isFrame) = true := by decide
    exact hescape (List.all_eq_true.mp (List.all_eq_true.mp hall c hmark))
  rw [escapeChar_of_notMem hmark] at hescape ⊢
  by_cases hcontrol : c.toNat < 0x20
  · rw [if_pos hcontrol] at hescape ⊢
    have hdigits : ∀ d < 16, isFrame (Nat.digitChar d) = true := by decide
    refine hescape ?_
    simp only [hex4, List.map_cons, List.map_nil, List.forall_mem_cons]
    exact ⟨rfl, rfl, hdigits _ (Nat.mod_lt _ (by omega)), hdigits _ (Nat.mod_lt _ (by omega)),
      hdigits _ (Nat.mod_lt _ (by omega)), hdigits _ (Nat.mod_lt _ (by omega)), nofun⟩
  · rw [if_neg hcontrol, List.flatMap_singleton]
    by_cases hsame : spell c = [c]
    · rw [hsame]
      simp only [escapedMarks, List.mem_cons, not_or] at hmark
      exact standsFor_self hmark.1 hmark.2.1 hcontrol
    · exact h.standsFor c hsame

/-- The body of a string is at least as long as the string. -/
theorem length_le_spelledBody (s : List Char) : s.length ≤ (spelledBody spell s).length := by
  induction s with
  | nil => exact Nat.le_refl _
  | cons c s ih =>
    have hpart := List.length_pos_iff.mpr (standsFor_spelled h c).ne_nil
    simp only [spelledBody, List.flatMap_cons, List.length_append, List.length_cons] at ih ⊢
    omega

/-- A string is read to its closing quote. -/
theorem stringBody?_spelled (s : List Char) {fuel : Nat} (enough : s.length < fuel) (done rest : List Char) :
    stringBody? fuel done (spelledBody spell s ++ '"' :: rest) = some (String.ofList (done.reverse ++ s), rest) := by
  induction s generalizing fuel done with
  | nil =>
    obtain ⟨fuel, rfl⟩ := Nat.exists_eq_add_one_of_ne_zero (Nat.ne_of_gt enough)
    simp [spelledBody, stringBody?]
  | cons c s ih =>
    obtain ⟨fuel, rfl⟩ := Nat.exists_eq_add_one_of_ne_zero (Nat.ne_of_gt (Nat.zero_lt_of_lt enough))
    have hread := standsFor_spelled h c fuel done (spelledBody spell s ++ '"' :: rest)
    simp only [spelledBody, List.flatMap_cons, List.append_assoc] at hread ih ⊢
    rw [hread, ih (by simpa using enough)]
    simp

/-- A string is spelled between its quotes. -/
theorem spelled_quote (s : String) : spelled spell (quote s) = '"' :: (spelledBody spell s.toList ++ ['"']) := by
  have hquote : spelled spell "\"" = ['"'] := spelled_of_frame h (by decide)
  rw [quote, spelled_append, spelled_append, hquote]
  simp [spelled, spelledBody, Text.expand, List.flatMap_assoc]

/-- The quoted text is read when its opening quote has been read. -/
theorem stringBody?_quote (s : String) (rest : List Char) :
    stringBody? ((spelledBody spell s.toList ++ '"' :: rest).length + 1) []
      (spelledBody spell s.toList ++ '"' :: rest) = some (s, rest) := by
  have henough : s.toList.length < (spelledBody spell s.toList ++ '"' :: rest).length + 1 := by
    have := length_le_spelledBody h s.toList
    simp only [List.length_append, List.length_cons]
    omega
  rw [stringBody?_spelled h s.toList henough]
  simp

end Spelled

/-! ## Values -/

/-- Where no blank stands none is skipped. -/
theorem skipBlanks_cons {c : Char} {rest : List Char} (h : (c == ' ' || c == '\n' || c == '\t' || c == '\r') = false) :
    skipBlanks (c :: rest) = c :: rest :=
  List.dropWhile_cons_of_neg (by simp [h])

/-- The first character of a value. -/
def opensValue (c : Char) : Bool := c.isDigit || "-\"[\x7btfn".toList.contains c

/-- A number consists of digits behind a sign, if it has one. -/
theorem isDigit_or_sign {n : Int} {c : Char} (h : c ∈ (toString n).toList) : c.isDigit = true ∨ c = '-' := by
  rw [Int.toString_eq_repr, Int.repr_eq_if] at h
  split at h
  · rw [← Nat.toString_eq_repr] at h
    exact .inl (Text.isDigit_of_mem_toString h)
  · rw [← Nat.toString_eq_repr, String.toList_append] at h
    rcases List.mem_append.mp h with h | h
    · exact .inr (by simpa using h)
    · exact .inl (Text.isDigit_of_mem_toString h)

/-- An integer is written outside of strings. -/
theorem toString_frame (n : Int) : (toString n).toList.all isFrame = true := by
  refine List.all_eq_true.mpr fun c hc => ?_
  rcases isDigit_or_sign hc with hdigit | rfl
  · simp [isFrame, Char.isAlphanum, hdigit]
  · rfl

/-- An integer is written with some character. -/
theorem toString_int_ne_nil (n : Int) : (toString n).toList ≠ [] := by
  rw [Int.toString_eq_repr, Int.repr_eq_if]
  split
  · exact Text.toList_toString_ne_nil n.toNat
  · simp

section Spelled

variable {spell : Char → List Char} (h : Respelling spell)
include h

/-- A list is spelled item by item. -/
theorem spelled_array (items : List Json) :
    spelled spell (print (.array items)) = '[' :: (spelled spell (printItems items) ++ [']']) := by
  have hopen : spelled spell "[" = ['['] := spelled_of_frame h (by decide)
  have hclose : spelled spell "]" = [']'] := spelled_of_frame h (by decide)
  rw [print, spelled_append, spelled_append, hopen, hclose]
  rfl

/-- An object is spelled member by member. -/
theorem spelled_object (members : Members) :
    spelled spell (print (.object members)) = '\x7b' :: (spelled spell (printMembers members) ++ ['\x7d']) := by
  have hopen : spelled spell "\x7b" = ['\x7b'] := spelled_of_frame h (by decide)
  have hclose : spelled spell "\x7d" = ['\x7d'] := spelled_of_frame h (by decide)
  rw [print, spelled_append, spelled_append, hopen, hclose]
  rfl

/-- An item is spelled before the others. -/
theorem spelled_items (item next : Json) (rest : List Json) :
    spelled spell (printItems (item :: next :: rest)) =
      spelled spell (print item) ++ ',' :: spelled spell (printItems (next :: rest)) := by
  have hcomma : spelled spell "," = [','] := spelled_of_frame h (by decide)
  rw [printItems, spelled_append, spelled_append, hcomma]
  · simp
  · exact nofun

/-- A member is spelled as its key and its value. -/
theorem spelled_member (key : String) (value : Json) :
    spelled spell (printMembers [(key, value)]) =
      '"' :: (spelledBody spell key.toList ++ '"' :: ':' :: spelled spell (print value)) := by
  have hcolon : spelled spell ":" = [':'] := spelled_of_frame h (by decide)
  rw [printMembers, spelled_append, spelled_append, hcolon, spelled_quote h]
  simp

/-- A member is spelled before the others. -/
theorem spelled_members (key : String) (value : Json) (next : String × Json) (rest : Members) :
    spelled spell (printMembers ((key, value) :: next :: rest)) =
      spelled spell (printMembers [(key, value)]) ++ ',' :: spelled spell (printMembers (next :: rest)) := by
  have hcomma : spelled spell "," = [','] := spelled_of_frame h (by decide)
  rw [printMembers, printMembers, spelled_append, spelled_append, spelled_append, hcomma]
  · simp
  · exact nofun

/-- A printed value opens with a character that tells what it is. -/
theorem exists_opening {value : Json} (exact : Exact value) :
    ∃ c text, spelled spell (print value) = c :: text ∧ opensValue c = true := by
  cases exact with
  | null => exact ⟨_, _, spelled_of_frame h (by decide), rfl⟩
  | bool value =>
    cases value
    · exact ⟨_, _, spelled_of_frame h (by decide), rfl⟩
    · exact ⟨_, _, spelled_of_frame h (by decide), rfl⟩
  | int n low high =>
    obtain ⟨c, text, htext⟩ := List.exists_cons_of_ne_nil (toString_int_ne_nil n)
    refine ⟨c, text, by rw [print, spelled_of_frame h (toString_frame n), htext], ?_⟩
    rcases isDigit_or_sign (n := n) (by rw [htext]; exact List.mem_cons_self) with hdigit | rfl
    · simp [opensValue, hdigit]
    · rfl
  | string s => exact ⟨_, _, by rw [print, spelled_quote h], rfl⟩
  | array items each => exact ⟨_, _, spelled_array h items, rfl⟩
  | object members distinct each => exact ⟨_, _, spelled_object h members, rfl⟩

/-- So do the items of an array. -/
theorem exists_opening_items {item : Json} (exact : Exact item) (more : List Json) :
    ∃ c text, spelled spell (printItems (item :: more)) = c :: text ∧ opensValue c = true := by
  obtain ⟨c, text, htext, hopens⟩ := exists_opening h exact
  rcases more with _ | ⟨next, more⟩
  · exact ⟨c, text, htext, hopens⟩
  · exact ⟨c, _, by rw [spelled_items h, htext]; rfl, hopens⟩

/-- The members of an object open with the quote of a key. -/
theorem exists_opening_members (m : String × Json) (more : Members) :
    ∃ text, spelled spell (printMembers (m :: more)) = '"' :: text := by
  rcases more with _ | ⟨next, more⟩
  · exact ⟨_, spelled_member h m.1 m.2⟩
  · exact ⟨_, by rw [spelled_members h, spelled_member h]; rfl⟩

end Spelled

/-- No blank stands where a value starts. -/
theorem skipBlanks_opening {c : Char} (h : opensValue c = true) (rest : List Char) :
    skipBlanks (c :: rest) = c :: rest := by
  refine skipBlanks_cons ?_
  by_contra hblank
  simp only [Bool.not_eq_false, Bool.or_eq_true, beq_iff_eq] at hblank
  rcases hblank with ((rfl | rfl) | rfl) | rfl <;> exact absurd h (by decide)

/-- A digit or a sign opens a number. -/
theorem value?_number {c : Char} (h : c.isDigit = true ∨ c = '-') (fuel depth : Nat) (rest : List Char) :
    value? (fuel + 1) depth (c :: rest) = number? (c :: rest) := by
  have hopens : opensValue c = true := by
    rcases h with h | rfl
    · simp [opensValue, h]
    · rfl
  have hother : c ∉ ['"', '[', '\x7b', 't', 'f', 'n'] := by
    intro hmem
    simp only [List.mem_cons, List.not_mem_nil, or_false] at hmem
    rcases hmem with rfl | rfl | rfl | rfl | rfl | rfl <;> exact absurd h (by decide)
  simp only [List.mem_cons, List.not_mem_nil, or_false, not_or] at hother
  rw [value?, skipBlanks_opening hopens]
  simp [hother]

/-- A new key is inserted at the end. -/
theorem Members.insert_of_notMem {key : String} {value : Json} {members : Members}
    (h : key ∉ members.map Prod.fst) : Members.insert key value members = members ++ [(key, value)] := by
  induction members with
  | nil => rfl
  | cons m rest ih =>
    rw [List.map_cons, List.mem_cons, not_or] at h
    rw [Members.insert, if_neg (by simpa using Ne.symm h.1), ih h.2, List.cons_append]

/-- The printed text of a value is read as this value, whatever ends it. The depth that a reader runs with bounds how
deep containers nest, and the length of the text how often it calls itself. -/
def ReadsBack (spell : Char → List Char) (value : Json) : Prop :=
  ∀ (fuel depth : Nat) (rest : List Char), (spelled spell (print value)).length ≤ fuel → nesting value < depth →
    Ends rest → value? (fuel + 1) depth (spelled spell (print value) ++ rest) = some (value, rest)

section Spelled

variable {spell : Char → List Char} (h : Respelling spell)
include h

/-- The items of an array are read to its closing bracket. -/
theorem items?_spelled {items : List Json} (some_item : items ≠ []) (each : ∀ item ∈ items, ReadsBack spell item)
    {fuel depth : Nat} (enough : (spelled spell (printItems items)).length ≤ fuel)
    (shallow : nestingItems items < depth) (rest : List Char) :
    items? (fuel + 2) depth (spelled spell (printItems items) ++ ']' :: rest) = some (items, rest) := by
  induction items generalizing fuel with
  | nil => exact absurd rfl some_item
  | cons item more ih =>
    obtain ⟨hitem, hmore⟩ := List.forall_mem_cons.mp each
    rw [nestingItems] at shallow
    rcases more with _ | ⟨next, more⟩
    · rw [printItems] at enough ⊢
      rw [items?, hitem fuel depth (']' :: rest) enough (by omega) (ends_cons (by simp))]
      rfl
    · rw [spelled_items h, List.length_append, List.length_cons] at enough
      obtain ⟨fuel, rfl⟩ := Nat.exists_eq_add_one_of_ne_zero (show fuel ≠ 0 by omega)
      have hread := hitem (fuel + 1) depth (',' :: (spelled spell (printItems (next :: more)) ++ ']' :: rest))
        (by omega) (by omega) (ends_cons (by simp))
      have htail : items? (fuel + 2) depth (spelled spell (printItems (next :: more)) ++ ']' :: rest) =
          some (next :: more, rest) := ih (List.cons_ne_nil _ _) hmore (by omega) (by omega)
      rw [spelled_items h, List.append_assoc, List.cons_append, items?, hread]
      simp only [skipBlanks_cons (c := ',') rfl, htail]
      rfl

/-- A member of an object is read to what ends it. -/
theorem members?_member {key : String} {value : Json} (hvalue : ReadsBack spell value) {done : Members}
    (fresh : key ∉ done.map Prod.fst) {fuel depth : Nat}
    (enough : (spelled spell (printMembers [(key, value)])).length ≤ fuel) (shallow : nesting value < depth)
    {c : Char} (hc : c = ',' ∨ c = '\x7d') (rest : List Char) :
    members? (fuel + 2) depth done (spelled spell (printMembers [(key, value)]) ++ c :: rest) =
      if c = ',' then members? (fuel + 1) depth (done ++ [(key, value)]) rest
      else some (done ++ [(key, value)], rest) := by
  rw [spelled_member h] at enough ⊢
  simp only [List.length_cons, List.length_append] at enough
  have hquote := stringBody?_quote h key (':' :: (spelled spell (print value) ++ c :: rest))
  have hread := hvalue fuel depth (c :: rest) (by omega) shallow (ends_cons (hc.imp_right .inr))
  simp only [List.cons_append, List.append_assoc]
  rw [members?, skipBlanks_cons rfl]
  simp only [hquote, skipBlanks_cons (c := ':') rfl, hread, Members.insert_of_notMem fresh]
  rcases hc with rfl | rfl <;> rfl

/-- The members of an object are read to its closing brace. -/
theorem members?_spelled {members : Members} (some_member : members ≠ [])
    (each : ∀ m ∈ members, ReadsBack spell m.2) {done : Members} (distinct : ((done ++ members).map Prod.fst).Nodup)
    {fuel depth : Nat} (enough : (spelled spell (printMembers members)).length ≤ fuel)
    (shallow : nestingMembers members < depth) (rest : List Char) :
    members? (fuel + 2) depth done (spelled spell (printMembers members) ++ '\x7d' :: rest) =
      some (done ++ members, rest) := by
  induction members generalizing fuel done with
  | nil => exact absurd rfl some_member
  | cons m more ih =>
    obtain ⟨key, value⟩ := m
    have hvalue : ReadsBack spell value := each (key, value) List.mem_cons_self
    have hmore : ∀ m ∈ more, ReadsBack spell m.2 := fun m hm => each m (List.mem_cons_of_mem _ hm)
    have hfresh : key ∉ done.map Prod.fst := by
      rw [List.map_append, List.map_cons] at distinct
      exact fun hmem => (List.nodup_append.mp distinct).2.2 key hmem key List.mem_cons_self rfl
    rw [nestingMembers] at shallow
    rcases more with _ | ⟨next, more⟩
    · exact members?_member h hvalue hfresh enough (by omega) (.inr rfl) rest
    · rw [spelled_members h, List.length_append, List.length_cons] at enough
      obtain ⟨fuel, rfl⟩ := Nat.exists_eq_add_one_of_ne_zero (show fuel ≠ 0 by omega)
      -- the first member is among those done when the others are read
      have htail : members? (fuel + 2) depth (done ++ [(key, value)])
            (spelled spell (printMembers (next :: more)) ++ '\x7d' :: rest) =
          some (done ++ [(key, value)] ++ next :: more, rest) :=
        ih (List.cons_ne_nil _ _) hmore (by rwa [List.append_assoc]) (by omega) (by omega)
      rw [spelled_members h, List.append_assoc, List.cons_append,
        members?_member h hvalue hfresh (by omega) (by omega) (.inl rfl)]
      simpa [List.append_assoc] using htail

/-- In any spelling the printed text of an exact value is read as this value. -/
theorem readsBack_of_exact {value : Json} (exact : Exact value) : ReadsBack spell value := by
  induction exact with
  | null =>
    intro fuel depth rest enough shallow ends
    rw [spelled_of_frame h (by decide)]
    rfl
  | bool value =>
    intro fuel depth rest enough shallow ends
    cases value
    · rw [spelled_of_frame h (by decide)]
      rfl
    · rw [spelled_of_frame h (by decide)]
      rfl
  | int n low high =>
    intro fuel depth rest enough shallow ends
    obtain ⟨c, text, htext⟩ := List.exists_cons_of_ne_nil (toString_int_ne_nil n)
    rw [print, spelled_of_frame h (toString_frame n)]
    have hopens := isDigit_or_sign (n := n) (by rw [htext]; exact List.mem_cons_self)
    rw [htext, List.cons_append, value?_number hopens, ← List.cons_append, ← htext,
      number?_toString low high ends]
  | string s =>
    intro fuel depth rest enough shallow ends
    have hquote := stringBody?_quote h s rest
    rw [print, spelled_quote h, List.cons_append, List.append_assoc, List.singleton_append, value?,
      skipBlanks_opening rfl]
    simp only [hquote]
    rfl
  | array items each ih =>
    intro fuel depth rest enough shallow ends
    rw [nesting] at shallow
    rw [spelled_array h, List.length_cons, List.length_append, List.length_singleton] at enough
    obtain ⟨fuel, rfl⟩ := Nat.exists_eq_add_of_le' (show 2 ≤ fuel by omega)
    rw [spelled_array h, List.cons_append, List.append_assoc, List.singleton_append, value?, skipBlanks_opening rfl]
    simp only [if_neg (show ¬ depth ≤ 1 by omega)]
    rcases items with _ | ⟨item, more⟩
    · rfl
    · have hread : items? (fuel + 2) (depth - 1) (spelled spell (printItems (item :: more)) ++ ']' :: rest) =
          some (item :: more, rest) := items?_spelled h (List.cons_ne_nil item more) ih (by omega) (by omega) rest
      obtain ⟨c, text, htext, hopens⟩ := exists_opening_items h (each item List.mem_cons_self) more
      -- no item begins with a closing bracket, so the reader goes on to the items
      have hc : c ≠ ']' := by
        rintro rfl
        exact absurd hopens (by decide)
      rw [htext, List.cons_append] at hread ⊢
      rw [skipBlanks_opening hopens]
      simp [hc, hread]
  | object members distinct each ih =>
    intro fuel depth rest enough shallow ends
    rw [nesting] at shallow
    rw [spelled_object h, List.length_cons, List.length_append, List.length_singleton] at enough
    obtain ⟨fuel, rfl⟩ := Nat.exists_eq_add_of_le' (show 2 ≤ fuel by omega)
    rw [spelled_object h, List.cons_append, List.append_assoc, List.singleton_append, value?, skipBlanks_opening rfl]
    simp only [if_neg (show ¬ depth ≤ 1 by omega)]
    rcases members with _ | ⟨m, more⟩
    · rfl
    · have hread : members? (fuel + 2) (depth - 1) []
            (spelled spell (printMembers (m :: more)) ++ '\x7d' :: rest) = some (m :: more, rest) :=
        members?_spelled h (List.cons_ne_nil m more) ih distinct (by omega) (by omega) rest
      obtain ⟨text, htext⟩ := exists_opening_members h m more
      rw [htext, List.cons_append] at hread ⊢
      rw [skipBlanks_opening rfl]
      simp [hread]

/-- **Printed JSON is read back.** In any spelling the printed text of an exact value denotes this value, for every
reader that allows containers to nest as deep as they do there. -/
theorem readWithin?_spelled {value : Json} (exact : Exact value) {depth : Nat} (shallow : nesting value < depth) :
    readWithin? depth (Text.expand spell (print value)) = some value := by
  have htext : (Text.expand spell (print value)).toList = spelled spell (print value) := by simp [Text.expand, spelled]
  have hread := readsBack_of_exact h exact (2 * (spelled spell (print value)).length + 1) depth [] (by omega) shallow
    ends_nil
  rw [List.append_nil] at hread
  simp [readWithin?, htext, hread, skipBlanks]

end Spelled

/-- Spelled as it is printed, the text of an exact value denotes this value. -/
theorem readWithin?_print {value : Json} (exact : Exact value) {depth : Nat} (shallow : nesting value < depth) :
    readWithin? depth (print value) = some value := by
  have hspell : Respelling fun c => [c] := ⟨fun _ _ => rfl, fun _ hne => absurd rfl hne⟩
  have hread := readWithin?_spelled hspell exact shallow
  rwa [Text.expand, List.flatMap_singleton', String.ofList_toList] at hread

end WidgetTemplates.Json
