import WidgetTemplates.Script.Grammar.Token
import WidgetTemplates.Script.Quoted

/-!
# Brackets of a script

A reading goes through a script from character to character. It keeps the brackets that are open, and what the
next character stands in: script text, a string, a chunk of a template literal, a regular expression or a comment.
Brackets count in script text only, and each has to be closed by its own kind, the one opened last first. What the
characters do not tell is whether a slash divides or starts a regular expression, so a reading is given the answers
in order.

A text is balanced by some answers (`BalancedBy`) if with them it is read from script text to script text, none of
them is left, and no bracket is open then. `Passes` is the same between any two lists of open brackets; texts that pass
can be put together (`Passes.append`) and into brackets that are open already (`Passes.within`). A text is balanced
(`Balanced`) if it is so by some answers.
-/

namespace WidgetTemplates.Script

/-- A bracket that is open. The brace after a dollar sign in a template literal is one of its own. -/
inductive Bracket where
  | round
  | square
  | curly
  | substitution
deriving DecidableEq, Repr

/-- What the next character stands in: script text, script text right after a slash whose meaning is not known yet, a
string, a chunk of a template literal, a regular expression or a comment. A flag says whether the last character was a
backslash, a dollar sign or a star, or whether a class of a regular expression is open. -/
inductive Region where
  | script
  | slash
  | quoted (quote : Char) (escaped : Bool)
  | chunk (escaped dollar : Bool)
  | regex (inClass escaped : Bool)
  | lineComment
  | blockComment (star : Bool)
deriving DecidableEq, Repr

/-- The bracket that a character opens. -/
def opening? (c : Char) : Option Bracket :=
  if c == '(' then some .round else if c == '[' then some .square else if c == '\x7b' then some .curly else none

/-- The bracket that a character closes. -/
def closing? (c : Char) : Option Bracket :=
  if c == ')' then some .round else if c == ']' then some .square else if c == '\x7d' then some .curly else none

/-- A reading of a script: what the slashes to come are, what the next character stands in, and the open brackets,
innermost first. -/
structure Reading where
  slashes : List Slash
  region : Region
  opened : List Bracket
deriving DecidableEq, Repr

namespace Reading

/-- After a closing bracket. The end of a substitution leads back into the template literal. -/
def close (r : Reading) (b : Bracket) : Option Reading :=
  match r.opened with
  | [] => none
  | top :: rest =>
    if top == b then some { r with region := .script, opened := rest }
    else if top == .substitution && b == .curly then some { r with region := .chunk false false, opened := rest }
    else none

/-- After a character of script text. -/
def inScript (r : Reading) (c : Char) : Option Reading :=
  if c == '"' || c == '\'' then some { r with region := .quoted c false }
  else if c == '\x60' then some { r with region := .chunk false false }
  else if c == '/' then some { r with region := .slash }
  else
    match opening? c, closing? c with
    | some b, _ => some { r with region := .script, opened := b :: r.opened }
    | none, some b => r.close b
    | none, none => some { r with region := .script }

/-- After a character of a regular expression, which does not extend over a line. -/
def inRegex (r : Reading) (inClass escaped : Bool) (c : Char) : Option Reading :=
  if Grammar.isLineEnd c then none
  else if escaped then some { r with region := .regex inClass false }
  else if c == '/' && !inClass then some { r with region := .script }
  else if c == '[' then some { r with region := .regex true false }
  else if c == ']' then some { r with region := .regex false false }
  else some { r with region := .regex inClass (c == '\\') }

/-- After a character of a chunk of a template literal. -/
def inChunk (r : Reading) (escaped dollar : Bool) (c : Char) : Reading :=
  if escaped then { r with region := .chunk false false }
  else if c == '\x60' then { r with region := .script }
  else if dollar && c == '\x7b' then { r with region := .script, opened := .substitution :: r.opened }
  else { r with region := .chunk (c == '\\') (c == '$') }

/-- After a character right behind a slash. -/
def afterSlash (r : Reading) (c : Char) : Option Reading :=
  if c == '/' then some { r with region := .lineComment }
  else if c == '*' then some { r with region := .blockComment false }
  else
    match r.slashes with
    | [] => none
    | .divides :: rest => { r with slashes := rest }.inScript c
    | .startsRegex :: rest => { r with slashes := rest }.inRegex false false c

/-- After one more character; nothing if it closes a bracket that is not the innermost one. -/
def next (r : Reading) (c : Char) : Option Reading :=
  match r.region with
  | .script => r.inScript c
  | .slash => r.afterSlash c
  | .quoted quote escaped =>
    if !escaped && c == quote then some { r with region := .script }
    else some { r with region := .quoted quote (!escaped && c == '\\') }
  | .chunk escaped dollar => some (r.inChunk escaped dollar c)
  | .regex inClass escaped => r.inRegex inClass escaped c
  | .lineComment => some { r with region := if Grammar.isLineEnd c then .script else .lineComment }
  | .blockComment star =>
    some { r with region := if star && c == '/' then .script else .blockComment (c == '*') }

/-- After a text. -/
def run (r : Reading) (text : List Char) : Option Reading := text.foldlM next r

variable {r r' : Reading}

@[simp] theorem run_nil (r : Reading) : r.run [] = some r := rfl

/-- The first character is read before the others. -/
theorem run_cons (r : Reading) (c : Char) (text : List Char) :
    r.run (c :: text) = (r.next c).bind fun r' => r'.run text := rfl

/-- Two texts in a row are read one after the other. -/
theorem run_append (r : Reading) (text more : List Char) :
    r.run (text ++ more) = (r.run text).bind fun r' => r'.run more :=
  List.foldlM_append

/-- A text is read character by character. -/
theorem run_of_next {c : Char} (h : r.next c = some r') (text : List Char) : r.run (c :: text) = r'.run text := by
  rw [run_cons, h]
  rfl

/-- A text is read where the text before it leads to. -/
theorem run_of_run {text : List Char} (h : r.run text = some r') (more : List Char) :
    r.run (text ++ more) = r'.run more := by
  rw [run_append, h]
  rfl

/-! ## More answers and more brackets -/

/-- The reading with more answers to come and more brackets open around it. -/
def within (r : Reading) (slashes : List Slash) (opened : List Bracket) : Reading :=
  ⟨r.slashes ++ slashes, r.region, r.opened ++ opened⟩

section Within

variable {slashes : List Slash} {opened : List Bracket} {c : Char}

/-- Closing a bracket does not depend on those around it. -/
theorem close_within {b : Bracket} (h : r.close b = some r') :
    (r.within slashes opened).close b = some (r'.within slashes opened) := by
  obtain ⟨ds, region, _ | ⟨top, rest⟩⟩ := r
  · exact nomatch h
  · grind [close, within]

/-- A character of script text is read the same way with more around it. -/
theorem inScript_within (h : r.inScript c = some r') :
    (r.within slashes opened).inScript c = some (r'.within slashes opened) := by
  rcases ho : opening? c with _ | b
  · rcases hc : closing? c with _ | b
    · grind [inScript, within]
    · grind [inScript, within, close_within]
  · grind [inScript, within]

/-- A character of a regular expression is read the same way with more around it. -/
theorem inRegex_within {inClass escaped : Bool} (h : r.inRegex inClass escaped c = some r') :
    (r.within slashes opened).inRegex inClass escaped c = some (r'.within slashes opened) := by
  grind [inRegex, within]

/-- A character of a chunk is read the same way with more around it. -/
theorem inChunk_within {escaped dollar : Bool} :
    (r.within slashes opened).inChunk escaped dollar c = (r.inChunk escaped dollar c).within slashes opened := by
  grind [inChunk, within]

/-- A character behind a slash is read the same way with more answers to come. -/
theorem afterSlash_within (h : r.afterSlash c = some r') :
    (r.within slashes opened).afterSlash c = some (r'.within slashes opened) := by
  obtain ⟨_ | ⟨_ | _, rest⟩, region, brackets⟩ := r
  · grind [afterSlash, within]
  · have hinside := @inScript_within ⟨rest, region, brackets⟩ r' slashes opened c
    grind [afterSlash, within]
  · have hinside := @inRegex_within ⟨rest, region, brackets⟩ r' slashes opened c false false
    grind [afterSlash, within]

/-- What is read does not depend on the answers that are not asked for and the brackets that are not closed. -/
theorem next_within (h : r.next c = some r') :
    (r.within slashes opened).next c = some (r'.within slashes opened) := by
  obtain ⟨ds, region, brackets⟩ := r
  cases region with
  | script => exact inScript_within h
  | slash => exact afterSlash_within h
  | quoted quote escaped =>
    simp only [next] at h
    split at h
    · next hc =>
      obtain rfl := Option.some.inj h
      exact if_pos hc
    · next hc =>
      obtain rfl := Option.some.inj h
      exact if_neg hc
  | chunk escaped dollar =>
    obtain rfl := Option.some.inj h
    exact congrArg some inChunk_within
  | regex inClass escaped => exact inRegex_within h
  | lineComment =>
    obtain rfl := Option.some.inj h
    rfl
  | blockComment star =>
    obtain rfl := Option.some.inj h
    rfl

/-- A text is read the same way with more answers to come and more brackets around it. -/
theorem run_within (slashes : List Slash) (opened : List Bracket) {text : List Char} (h : r.run text = some r') :
    (r.within slashes opened).run text = some (r'.within slashes opened) := by
  induction text generalizing r with
  | nil =>
    obtain rfl := Option.some.inj h
    rfl
  | cons c text ih =>
    rw [run_cons] at h
    obtain ⟨t, hnext, hrun⟩ := Option.bind_eq_some_iff.mp h
    rw [run_of_next (next_within hnext)]
    exact ih hrun

end Within

end Reading

/-! ## Texts that pass -/

/-- With these answers, all of them used, the text is read from script text to script text and leads from the open
brackets `k` to `k'`. -/
def Passes (slashes : List Slash) (text : List Char) (k k' : List Bracket) : Prop :=
  Reading.run ⟨slashes, .script, k⟩ text = some ⟨[], .script, k'⟩

instance (slashes : List Slash) (text : List Char) (k k' : List Bracket) : Decidable (Passes slashes text k k') :=
  inferInstanceAs (Decidable (_ = _))

/-- With these answers, all of them used, the brackets of a text are balanced and properly nested. -/
def BalancedBy (slashes : List Slash) (text : List Char) : Prop := Passes slashes text [] []

/-- With some answers the brackets of a text are balanced and properly nested. -/
def Balanced (text : List Char) : Prop := ∃ slashes, BalancedBy slashes text

namespace Passes

variable {slashes slashes' : List Slash} {text more : List Char} {k k' k'' : List Bracket}

theorem nil (k : List Bracket) : Passes [] [] k k := rfl

/-- The brackets that are open around a text do not matter. -/
theorem within (h : Passes slashes text k k') (opened : List Bracket) :
    Passes slashes text (k ++ opened) (k' ++ opened) := by
  simpa [Passes, Reading.within] using Reading.run_within [] opened h

/-- The answers that are not asked for stay. -/
theorem run (h : Passes slashes text k k') (later : List Slash) :
    Reading.run ⟨slashes ++ later, .script, k⟩ text = some ⟨later, .script, k'⟩ := by
  simpa [Reading.within] using Reading.run_within later [] h

/-- Two texts in a row ask for the answers of the first one and then for those of the second one. -/
theorem append (h : Passes slashes text k k') (h' : Passes slashes' more k' k'') :
    Passes (slashes ++ slashes') (text ++ more) k k'' := by
  rw [Passes, Reading.run_of_run (h.run slashes')]
  exact h'

/-- A bracket that is opened is open. -/
theorem opening {c : Char} {b : Bracket} (h : opening? c = some b) (k : List Bracket) : Passes [] [c] k (b :: k) := by
  obtain rfl | rfl | rfl : c = '(' ∨ c = '[' ∨ c = '\x7b' := by grind [opening?]
  all_goals
    obtain rfl := Option.some.inj h
    rfl

/-- The innermost bracket is closed. -/
theorem closing {c : Char} {b : Bracket} (h : closing? c = some b) (k : List Bracket) : Passes [] [c] (b :: k) k := by
  obtain rfl | rfl | rfl : c = ')' ∨ c = ']' ∨ c = '\x7d' := by grind [closing?]
  all_goals
    obtain rfl := Option.some.inj h
    rfl

end Passes

namespace BalancedBy

variable {slashes slashes' : List Slash} {text more : List Char}

theorem balanced (h : BalancedBy slashes text) : Balanced text := ⟨slashes, h⟩

theorem nil : BalancedBy [] [] := Passes.nil []

/-- Balanced texts in a row are balanced. -/
theorem append (h : BalancedBy slashes text) (h' : BalancedBy slashes' more) :
    BalancedBy (slashes ++ slashes') (text ++ more) :=
  Passes.append h h'

/-- A balanced text leaves the open brackets around it as they are. -/
theorem passes (h : BalancedBy slashes text) (k : List Bracket) : Passes slashes text k k := Passes.within h k

end BalancedBy

/-! ## Plain characters -/

/-- The characters that mean something to a reading of script text. -/
def specialChars : List Char := ['"', '\'', '\x60', '/', '(', ')', '[', ']', '\x7b', '\x7d']

/-- A character that means nothing to a reading of script text. -/
def isPlain (c : Char) : Bool := !specialChars.contains c

/-- The characters of a class without special ones are plain. -/
theorem isPlain_of_class {p : Char → Bool} (apart : specialChars.any p = false) {c : Char} (h : p c = true) :
    isPlain c = true := by
  rw [isPlain, Bool.not_eq_true', List.contains_eq_mem, decide_eq_false_iff_not]
  exact fun hc => List.any_eq_false.mp apart c hc h

/-- Letters and digits are plain. -/
theorem isPlain_of_isAlphanum {c : Char} (h : c.isAlphanum = true) : isPlain c = true :=
  isPlain_of_class (by decide) h

/-- A plain character stays in script text. -/
theorem Reading.inScript_of_isPlain {c : Char} (h : isPlain c = true) (r : Reading) :
    r.inScript c = some { r with region := .script } := by
  simp only [isPlain, specialChars, Bool.not_eq_true', List.contains_eq_mem, decide_eq_false_iff_not, List.mem_cons,
    List.not_mem_nil, or_false, not_or] at h
  simp [inScript, opening?, closing?, h]

/-- A text of plain characters. -/
def Plain (text : List Char) : Prop := ∀ c ∈ text, isPlain c = true

instance (text : List Char) : Decidable (Plain text) := decidable_of_iff (text.all isPlain = true) List.all_eq_true

/-- Plain text leaves the open brackets as they are. -/
theorem Passes.of_plain {text : List Char} (plain : Plain text) (k : List Bracket) : Passes [] text k k := by
  induction text with
  | nil => rfl
  | cons c text ih =>
    rw [Plain, List.forall_mem_cons] at plain
    have hnext : Reading.next ⟨[], .script, k⟩ c = some ⟨[], .script, k⟩ := Reading.inScript_of_isPlain plain.1 _
    rw [Passes, Reading.run_of_next hnext]
    exact ih plain.2

/-- Plain text is balanced, and has no slashes. -/
theorem BalancedBy.of_plain {text : List Char} (plain : Plain text) : BalancedBy [] text := Passes.of_plain plain []

/-! ## String literals -/

/-- A text that does not end the string it stands in: a backslash takes the character behind it along. -/
inductive StaysQuoted : List Char → Prop
  | nil : StaysQuoted []
  | char {c : Char} {rest : List Char} (quiet : c ≠ '"' ∧ c ≠ '\\') (after : StaysQuoted rest) : StaysQuoted (c :: rest)
  | escape (c : Char) {rest : List Char} (after : StaysQuoted rest) : StaysQuoted ('\\' :: c :: rest)

namespace StaysQuoted

variable {text more : List Char}

/-- Two texts that stay in a string stay in it together. -/
theorem append (h : StaysQuoted text) (h' : StaysQuoted more) : StaysQuoted (text ++ more) := by
  induction h with
  | nil => exact h'
  | char quiet _ ih => exact .char quiet ih
  | escape c _ ih => exact .escape c ih

/-- A text without quotes and backslashes stays in a string. -/
theorem of_quiet (quiet : ∀ c ∈ text, c ≠ '"' ∧ c ≠ '\\') : StaysQuoted text := by
  induction text with
  | nil => exact .nil
  | cons c text ih =>
    rw [List.forall_mem_cons] at quiet
    exact .char quiet.1 (ih quiet.2)

end StaysQuoted

/-- The digits of an escape do not end the string. -/
theorem staysQuoted_hex4 (n : Nat) : StaysQuoted (Json.hex4 n) := by
  have hdigit : ∀ d < 16, Nat.digitChar d ≠ '"' ∧ Nat.digitChar d ≠ '\\' := by decide
  refine .of_quiet fun c hc => ?_
  obtain ⟨d, hd, rfl⟩ := List.mem_map.mp hc
  refine hdigit d ?_
  simp only [List.mem_cons, List.not_mem_nil, or_false] at hd
  omega

/-- A character as a string literal has it does not end the string. -/
theorem staysQuoted_escapeChar (c : Char) : StaysQuoted (escapeChar c) := by
  have alone : ∀ d, StaysQuoted ['\\', d] := fun d => .escape d .nil
  have digits : ∀ n, StaysQuoted ('\\' :: 'u' :: Json.hex4 n) := fun n => .escape 'u' (staysQuoted_hex4 n)
  rw [escapeChar, Json.escapeChar]
  refine iteInduction (fun _ => .escape _ (.of_quiet (by simp))) fun _ => ?_
  refine iteInduction (fun _ => .escape _ (.of_quiet (by simp))) fun _ => ?_
  refine iteInduction (fun _ => alone _) fun hquote => iteInduction (fun _ => alone _) fun hbackslash => ?_
  iterate 5 refine iteInduction (fun _ => alone _) fun _ => ?_
  refine iteInduction (fun _ => digits _) fun _ => .char ?_ .nil
  exact ⟨by simpa using hquote, by simpa using hbackslash⟩

/-- An escaped text stays in its string. -/
theorem staysQuoted_escape (text : List Char) : StaysQuoted (escape text) := by
  induction text with
  | nil => exact .nil
  | cons c text ih => exact (staysQuoted_escapeChar c).append ih

/-- A string literal is the escaped text in quotes. -/
theorem toList_quote (s : String) : (quote s).toList = '"' :: (escape s.toList ++ ['"']) := by
  simp [Script.quote, Text.expand, String.toList_append, escape]

end WidgetTemplates.Script
