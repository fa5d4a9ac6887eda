import WidgetTemplates.Proofs.Json.ReadBack
import WidgetTemplates.Proofs.Script.Grammar.Lexemes

/-!
# What a string literal of a script stands for

`Grammar.afterString?` says where a string of a script ends. `literal?` also says what a double-quoted string stands
for, as code units of UTF-16, with the escapes of scripts that are no modules.

A quoted text is read back whatever it is (`literal?_escape`). A text that is put between the quotes as it is is read
back exactly if none of its characters means anything else there (`literal?_delimited_iff`): an escape stands for
fewer code units than it takes characters, so a literal with one never stands for the text between its quotes.
-/

namespace WidgetTemplates.Script

/-! ## Code units -/

/-- The code units of a code point. A surrogate is a code unit of its own. -/
def codeUnits (n : Nat) : List Nat :=
  if n < 0x10000 then [n] else [0xD800 + (n - 0x10000) / 0x400, 0xDC00 + (n - 0x10000) % 0x400]

/-- The code units of a text. -/
def units (s : List Char) : List Nat := s.flatMap fun c => codeUnits c.toNat

@[simp] theorem units_nil : units [] = [] := rfl

@[simp] theorem units_cons (c : Char) (s : List Char) : units (c :: s) = codeUnits c.toNat ++ units s := rfl

@[simp] theorem units_append (s t : List Char) : units (s ++ t) = units s ++ units t := List.flatMap_append

/-- A character has a code unit at least. -/
theorem length_codeUnits_pos (n : Nat) : 0 < (codeUnits n).length := by
  rw [codeUnits]
  split <;> simp

/-- A character has two code units at most. -/
theorem length_codeUnits_le (n : Nat) : (codeUnits n).length ≤ 2 := by
  rw [codeUnits]
  split <;> simp

/-- A text has as many code units as characters at least. -/
theorem length_le_units (s : List Char) : s.length ≤ (units s).length := by
  induction s with
  | nil => exact Nat.le_refl _
  | cons c s ih =>
    have hpos := length_codeUnits_pos c.toNat
    rw [units_cons, List.length_append, List.length_cons]
    omega

/-- Only the empty text has no code units. -/
theorem units_eq_nil {s : List Char} (h : units s = []) : s = [] := by
  have hlength := length_le_units s
  rw [h] at hlength
  exact List.length_eq_zero_iff.mp (Nat.le_zero.mp hlength)

/-! ## Escapes -/

/-- The code unit of an escape that is a single letter. -/
def letterEscape? (c : Char) : Option Nat :=
  match c with
  | 'b' => some 8
  | 't' => some 9
  | 'n' => some 10
  | 'v' => some 11
  | 'f' => some 12
  | 'r' => some 13
  | _ => none

/-- An octal digit. -/
def isOctal (c : Char) : Bool := '0' ≤ c && c ≤ '7'

/-- The digits of an octal escape: three if they stay below 256, else two. -/
def octalDigits (s : List Char) : List Char :=
  (s.take (if s.head?.any fun c => c ≤ '3' then 3 else 2)).takeWhile isOctal

/-- The code units that an escape stands for, and what follows it. The backslash has been read. -/
def escapeUnits? : List Char → Option (List Nat × List Char)
  | [] => none
  | 'x' :: a :: b :: rest => do
    let high ← Grammar.hexDigit? a
    let low ← Grammar.hexDigit? b
    some ([high * 16 + low], rest)
  | 'u' :: rest => (Grammar.escapedCode? rest).map fun (code, rest) => (codeUnits code, rest)
  | '\r' :: '\n' :: rest => some ([], rest)
  | c :: rest =>
    if c == 'x' then none
    else if Grammar.isLineEnd c then some ([], rest)
    else if isOctal c then
      let digits := octalDigits (c :: rest)
      some ([Nat.ofDigitChars 8 digits 0], (c :: rest).drop digits.length)
    else
      match letterEscape? c with
      | some code => some ([code], rest)
      | none => some (codeUnits c.toNat, rest)

/-- The code of an escape takes some characters. -/
theorem escapedCode?_takes {s rest : List Char} {n : Nat} (h : Grammar.escapedCode? s = some (n, rest)) :
    ∃ code, s = code ++ rest ∧ 0 < code.length := by
  rw [Grammar.escapedCode?.eq_def] at h
  split at h
  · obtain ⟨digits, rfl, -⟩ := Grammar.bracedCode?_eq h
    exact ⟨'\x7b' :: (digits ++ ['\x7d']), by simp, Nat.zero_lt_succ _⟩
  · next a b c d _ _ =>
    obtain ⟨values, -, h⟩ := Option.bind_eq_some_iff.mp h
    obtain ⟨-, rfl⟩ := Prod.mk.inj (Option.some.inj h)
    exact ⟨[a, b, c, d], rfl, Nat.zero_lt_succ _⟩
  · cases h

/-- The digits of an octal escape are those at its front, with the first one among them. -/
theorem octalDigits_takes {c : Char} (octal : isOctal c = true) (s : List Char) :
    c :: s = octalDigits (c :: s) ++ (c :: s).drop (octalDigits (c :: s)).length ∧
      0 < (octalDigits (c :: s)).length := by
  have hprefix : octalDigits (c :: s) <+: c :: s := (List.takeWhile_prefix _).trans (List.take_prefix _ _)
  refine ⟨(List.prefix_iff_eq_append.mp hprefix).symm, ?_⟩
  rw [octalDigits]
  split <;> simp [octal]

/-- What an escape stands for is no longer than the escape without its backslash. -/
theorem escapeUnits?_eq {s rest : List Char} {value : List Nat} (h : escapeUnits? s = some (value, rest)) :
    ∃ escape, s = escape ++ rest ∧ value.length ≤ (units escape).length := by
  rw [escapeUnits?.eq_def] at h
  split at h
  · exact nomatch h
  -- two hexadecimal digits make at most two code units
  · next a b more =>
    obtain ⟨high, -, h⟩ := Option.bind_eq_some_iff.mp h
    obtain ⟨low, -, h⟩ := Option.bind_eq_some_iff.mp h
    obtain ⟨rfl, rfl⟩ := Prod.mk.inj (Option.some.inj h)
    refine ⟨['x', a, b], rfl, ?_⟩
    have hlength := length_le_units ['x', a, b]
    simp only [List.length_cons, List.length_nil] at hlength ⊢
    omega
  · next more =>
    obtain ⟨⟨code, rest'⟩, hcode, h⟩ := Option.map_eq_some_iff.mp h
    obtain ⟨rfl, rfl⟩ := Prod.mk.inj h
    obtain ⟨digits, rfl, hpos⟩ := escapedCode?_takes hcode
    have hcodeUnits := length_codeUnits_le code
    have hunits := length_le_units ('u' :: digits)
    rw [List.length_cons] at hunits
    exact ⟨'u' :: digits, rfl, by omega⟩
  · next more =>
    obtain ⟨rfl, rfl⟩ := Prod.mk.inj (Option.some.inj h)
    exact ⟨['\r', '\n'], rfl, Nat.zero_le _⟩
  · next c more _ _ _ =>
    have hpos := length_codeUnits_pos c.toNat
    split at h
    · exact nomatch h
    split at h
    · obtain ⟨rfl, rfl⟩ := Prod.mk.inj (Option.some.inj h)
      exact ⟨[c], rfl, Nat.zero_le _⟩
    split at h
    -- octal digits make one code unit
    · next hoctal =>
      obtain ⟨rfl, rfl⟩ := Prod.mk.inj (Option.some.inj h)
      obtain ⟨hsplit, hpos⟩ := octalDigits_takes hoctal more
      have hunits := length_le_units (octalDigits (c :: more))
      exact ⟨octalDigits (c :: more), hsplit, by rw [List.length_singleton]; omega⟩
    split at h
    · obtain ⟨rfl, rfl⟩ := Prod.mk.inj (Option.some.inj h)
      exact ⟨[c], rfl, by rw [units_cons, units_nil, List.append_nil]; exact hpos⟩
    · obtain ⟨rfl, rfl⟩ := Prod.mk.inj (Option.some.inj h)
      exact ⟨[c], rfl, by simp⟩

/-! ## Literals -/

/-- The code units that a double-quoted literal stands for, from inside it on, and what follows its closing quote.
`fuel` bounds the number of its characters. -/
def literalUnits? : Nat → List Char → Option (List Nat × List Char)
  | 0, _ => none
  | _, [] => none
  | fuel + 1, c :: rest =>
    if c == '"' then some ([], rest)
    else if c == '\\' then do
      let (first, rest) ← escapeUnits? rest
      let (more, rest) ← literalUnits? fuel rest
      some (first ++ more, rest)
    else if c == '\n' || c == '\r' then none
    else do
      let (more, rest) ← literalUnits? fuel rest
      some (codeUnits c.toNat ++ more, rest)

/-- What a double-quoted literal stands for, and what follows it. Its opening quote has been read. -/
def literal? (s : List Char) : Option (List Nat × List Char) := literalUnits? (s.length + 1) s

/-! ## Texts that are read back -/

/-- Inside a literal a piece of text stands for a character. -/
def Spells (part : List Char) (c : Char) : Prop :=
  ∀ (fuel : Nat) (rest : List Char), literalUnits? (fuel + 1) (part ++ rest) =
    (literalUnits? fuel rest).map fun (more, rest) => (codeUnits c.toNat ++ more, rest)

/-- A character is spelled with some character. -/
theorem Spells.ne_nil {part : List Char} {c : Char} (h : Spells part c) : part ≠ [] := by
  rintro rfl
  have hread := h 0 ['"']
  simp [literalUnits?] at hread

/-- Pieces that stand for the characters of a text, one after another, stand for the text. -/
theorem literal?_spelled {parts : Char → List Char} {s : List Char} (h : ∀ c ∈ s, Spells (parts c) c)
    (rest : List Char) : literal? (s.flatMap parts ++ '"' :: rest) = some (units s, rest) := by
  have hread : ∀ fuel, s.length < fuel →
      literalUnits? fuel (s.flatMap parts ++ '"' :: rest) = some (units s, rest) := by
    induction s with
    | nil =>
      intro fuel enough
      obtain ⟨fuel, rfl⟩ := Nat.exists_eq_add_one_of_ne_zero (Nat.ne_of_gt enough)
      rfl
    | cons c s ih =>
      intro fuel enough
      obtain ⟨hc, hs⟩ := List.forall_mem_cons.mp h
      obtain ⟨fuel, rfl⟩ := Nat.exists_eq_add_one_of_ne_zero (Nat.ne_of_gt (Nat.zero_lt_of_lt enough))
      rw [List.flatMap_cons, List.append_assoc, hc, ih hs fuel (Nat.lt_of_succ_lt_succ enough)]
      rfl
  -- every piece has a character, so the text bounds the number of steps that reading takes
  have hlength : s.length ≤ (s.flatMap parts).length := by
    clear hread
    induction s with
    | nil => exact Nat.le_refl _
    | cons c s ih =>
      obtain ⟨hc, hs⟩ := List.forall_mem_cons.mp h
      have hpart := List.length_pos_iff.mpr hc.ne_nil
      have hmore := ih hs
      rw [List.flatMap_cons, List.length_append, List.length_cons]
      omega
  refine hread _ ?_
  rw [List.length_append]
  omega

/-- What an escape is read as is spelled by it. -/
theorem spells_escape {part : List Char} {c : Char}
    (h : ∀ rest, escapeUnits? (part ++ rest) = some (codeUnits c.toNat, rest)) : Spells ('\\' :: part) c := by
  intro fuel rest
  rw [List.cons_append, literalUnits?, if_neg (by decide), if_pos (beq_self_eq_true _), h]
  dsimp only [Option.bind_eq_bind, Option.bind_some]
  cases literalUnits? fuel rest <;> rfl

/-- Four digits give the code that they were written for. -/
theorem escapedCode?_hex4 {n : Nat} (h : n < 0x10000) (rest : List Char) :
    Grammar.escapedCode? (Json.hex4 n ++ rest) = some (n, rest) := by
  have hdigit : ∀ {d}, d < 16 → Grammar.hexDigit? (Nat.digitChar d) = some d ∧ Nat.digitChar d ≠ '\x7b' := by
    have hall : ∀ d < 16, Grammar.hexDigit? (Nat.digitChar d) = some d ∧ Nat.digitChar d ≠ '\x7b' := by decide
    exact fun {d} => hall d
  have hvalue : ((n / 4096 % 16 * 16 + n / 256 % 16) * 16 + n / 16 % 16) * 16 + n % 16 = n := by omega
  have hmod (m : Nat) : m % 16 < 16 := Nat.mod_lt m (by omega)
  simp only [Json.hex4, List.map_cons, List.map_nil, List.cons_append, List.nil_append]
  rw [Grammar.escapedCode?]
  · simp [hdigit (hmod _), hvalue]
  · exact (hdigit (hmod _)).2

/-- The characters that mean something else between double quotes. -/
def marks : List Char := ['"', '\\', '\n', '\r']

/-- A character that is no mark spells itself. -/
theorem spells_self {c : Char} (h : c ∉ marks) : Spells [c] c := by
  intro fuel rest
  simp only [marks, List.mem_cons, List.not_mem_nil, or_false, not_or] at h
  rw [List.singleton_append, literalUnits?]
  cases literalUnits? fuel rest <;> simp [h]

/-- What a quoted text has for a character stands for it. -/
theorem spells_escapeChar (c : Char) : Spells (escapeChar c) c := by
  rw [escapeChar]
  split
  · next h =>
    obtain rfl := eq_of_beq h
    exact spells_escape fun _ => rfl
  split
  · next h =>
    obtain rfl := eq_of_beq h
    exact spells_escape fun _ => rfl
  by_cases hmark : c ∈ Json.escapedMarks
  · simp only [Json.escapedMarks, List.mem_cons, List.not_mem_nil, or_false] at hmark
    rcases hmark with rfl | rfl | rfl | rfl | rfl | rfl | rfl <;> exact spells_escape fun _ => rfl
  rw [Json.escapeChar_of_notMem hmark]
  split
  · next hcontrol =>
    refine spells_escape fun rest => ?_
    rw [List.cons_append, escapeUnits?, escapedCode?_hex4 (by omega)]
    rfl
  · refine spells_self fun h => hmark ?_
    simp only [marks, Json.escapedMarks, List.mem_cons, List.not_mem_nil, or_false] at h ⊢
    tauto

/-- **Whatever is quoted is read back.** -/
theorem literal?_escape (s rest : List Char) : literal? (escape s ++ '"' :: rest) = some (units s, rest) :=
  literal?_spelled (fun c _ => spells_escapeChar c) rest

/-! ## Texts that literals stand for -/

/-- The text of which these are the code units. A surrogate without its other half belongs to no text. -/
def textOf? : List Nat → Option (List Char)
  | [] => some []
  | unit :: rest =>
    if unit < 0xD800 || (0xE000 ≤ unit && unit < 0x10000) then (textOf? rest).map (Char.ofNat unit :: ·)
    else
      match rest with
      | low :: rest =>
        if unit < 0xDC00 && 0xDC00 ≤ low && low < 0xE000 then
          (textOf? rest).map (Char.ofNat (0x10000 + (unit - 0xD800) * 0x400 + (low - 0xDC00)) :: ·)
        else none
      | [] => none

/-- A character is the text of its code units. -/
theorem textOf?_codeUnits (c : Char) (rest : List Nat) :
    textOf? (codeUnits c.toNat ++ rest) = (textOf? rest).map (c :: ·) := by
  have hvalid : c.toNat < 0xD800 ∨ 0xDFFF < c.toNat ∧ c.toNat < 0x110000 := c.valid
  rw [codeUnits]
  by_cases hbasic : c.toNat < 0x10000
  · have hunit : c.toNat < 0xD800 ∨ 0xE000 ≤ c.toNat ∧ c.toNat < 0x10000 := by omega
    rw [if_pos hbasic, List.singleton_append, textOf?.eq_def]
    dsimp only
    rw [if_pos (by simpa using hunit), Char.ofNat_toNat]
  · -- the two halves of a surrogate pair
    have hhigh : ¬ (0xD800 + (c.toNat - 0x10000) / 0x400 < 0xD800 ∨
        0xE000 ≤ 0xD800 + (c.toNat - 0x10000) / 0x400 ∧ 0xD800 + (c.toNat - 0x10000) / 0x400 < 0x10000) := by omega
    have hpair : (0xD800 + (c.toNat - 0x10000) / 0x400 < 0xDC00 ∧ 0xDC00 ≤ 0xDC00 + (c.toNat - 0x10000) % 0x400) ∧
        0xDC00 + (c.toNat - 0x10000) % 0x400 < 0xE000 := by omega
    have hcode : 0x10000 + (0xD800 + (c.toNat - 0x10000) / 0x400 - 0xD800) * 0x400 +
        (0xDC00 + (c.toNat - 0x10000) % 0x400 - 0xDC00) = c.toNat := by omega
    rw [if_neg hbasic, List.cons_append, List.singleton_append, textOf?.eq_def]
    dsimp only
    rw [if_neg (by simpa using hhigh), if_pos (by simpa using hpair), hcode, Char.ofNat_toNat]

/-- A text is the text of its code units. -/
theorem textOf?_units (s : List Char) : textOf? (units s) = some s := by
  induction s with
  | nil => rfl
  | cons c s ih => rw [units_cons, textOf?_codeUnits, ih, Option.map_some]

/-- The text that a double-quoted literal stands for, and what follows it. Its opening quote has been read. -/
def literalText? (s : List Char) : Option (List Char × List Char) := do
  let (value, rest) ← literal? s
  some (← textOf? value, rest)

/-- Whatever is quoted is read back as a text. -/
theorem literalText?_escape (s rest : List Char) : literalText? (escape s ++ '"' :: rest) = some (s, rest) := by
  rw [literalText?, literal?_escape, Option.bind_eq_bind, Option.bind_some]
  dsimp only
  rw [textOf?_units, Option.bind_eq_bind, Option.bind_some]

/-- A quoted text ends where its literal ends, whatever follows it. -/
theorem quote_append_inj {s t : String} {rest more : List Char}
    (h : (quote s).toList ++ rest = (quote t).toList ++ more) : s = t ∧ rest = more := by
  simp only [toList_quote, List.cons_append, List.append_assoc, List.nil_append] at h
  have hread := congrArg literalText? (List.cons.inj h).2
  rw [literalText?_escape, literalText?_escape] at hread
  obtain ⟨htext, hrest⟩ := Prod.mk.inj (Option.some.inj hread)
  exact ⟨String.toList_injective htext, hrest⟩

/-! ## Texts as they are -/

/-- No character of the text means anything else between double quotes. -/
def Verbatim (s : List Char) : Prop := ∀ c ∈ s, c ∉ marks

instance (s : List Char) : Decidable (Verbatim s) := List.decidableBAll _ s

/-- A verbatim text stands for itself. -/
theorem literal?_verbatim {s : List Char} (h : Verbatim s) (rest : List Char) :
    literal? (s ++ '"' :: rest) = some (units s, rest) := by
  have hread := literal?_spelled (fun c hc => spells_self (h c hc)) rest
  rwa [List.flatMap_singleton'] at hread

/-- A literal stands for the text between its quotes, which is verbatim, or for something shorter. -/
theorem literalUnits?_eq {fuel : Nat} {s rest : List Char} {value : List Nat}
    (h : literalUnits? fuel s = some (value, rest)) :
    ∃ body, s = body ++ '"' :: rest ∧
      (Verbatim body ∧ value = units body ∨ value.length < (units body).length) := by
  induction fuel generalizing s value with
  | zero => exact nomatch h
  | succ fuel ih =>
    rcases s with _ | ⟨c, s⟩
    · exact nomatch h
    rw [literalUnits?] at h
    split at h
    · next hquote =>
      obtain ⟨rfl, rfl⟩ := Prod.mk.inj (Option.some.inj h)
      exact ⟨[], by rw [eq_of_beq hquote, List.nil_append], .inl ⟨nofun, rfl⟩⟩
    split at h
    · next hslash =>
      obtain ⟨⟨first, after⟩, hescape, h⟩ := Option.bind_eq_some_iff.mp h
      obtain ⟨⟨more, rest'⟩, hmore, h⟩ := Option.bind_eq_some_iff.mp h
      obtain ⟨rfl, rfl⟩ := Prod.mk.inj (Option.some.inj h)
      obtain ⟨escape, rfl, hfirst⟩ := escapeUnits?_eq hescape
      obtain ⟨body, rfl, hbody⟩ := ih hmore
      -- the backslash is a character more than what the escape stands for
      have hle : more.length ≤ (units body).length := by
        rcases hbody with ⟨-, rfl⟩ | hshort
        · exact Nat.le_refl _
        · exact Nat.le_of_lt hshort
      have hpos := length_codeUnits_pos c.toNat
      refine ⟨c :: (escape ++ body), by simp, .inr ?_⟩
      simp only [units_cons, units_append, List.length_append]
      omega
    split at h
    · exact nomatch h
    · next hquote hslash hline =>
      obtain ⟨⟨more, rest'⟩, hmore, h⟩ := Option.bind_eq_some_iff.mp h
      obtain ⟨rfl, rfl⟩ := Prod.mk.inj (Option.some.inj h)
      obtain ⟨body, rfl, hbody⟩ := ih hmore
      refine ⟨c :: body, rfl, ?_⟩
      rcases hbody with ⟨hverbatim, rfl⟩ | hshort
      · refine .inl ⟨List.forall_mem_cons.mpr ⟨?_, hverbatim⟩, rfl⟩
        simp only [beq_iff_eq, Bool.or_eq_true, not_or] at hquote hslash hline
        simp [marks, hquote, hslash, hline]
      · refine .inr ?_
        rw [units_cons, List.length_append, List.length_append]
        omega

/-- **A text may be put between double quotes as it is exactly if it is verbatim.** The literal then ends at the quote
behind the text; otherwise it is no literal or stands for another text. -/
theorem literal?_delimited_iff {s rest : List Char} (last : '"' ∉ rest) :
    (literal? (s ++ '"' :: rest)).map Prod.fst = some (units s) ↔ Verbatim s := by
  constructor
  · intro h
    obtain ⟨⟨value, rest'⟩, hliteral, rfl⟩ := Option.map_eq_some_iff.mp h
    obtain ⟨body, hsplit, hbody⟩ := literalUnits?_eq hliteral
    obtain ⟨more, rfl⟩ : body <+: s := by
      rcases List.append_eq_append_iff.mp hsplit with ⟨more, rfl, hmore⟩ | ⟨more, rfl, -⟩
      · rcases more with _ | ⟨c, more⟩
        · exact ⟨[], by simp⟩
        · obtain ⟨-, rfl⟩ := List.cons.inj hmore
          simp at last
      · exact ⟨more, rfl⟩
    rw [units_append] at hbody
    rcases hbody with ⟨hverbatim, hunits⟩ | hshort
    · obtain rfl := units_eq_nil (List.append_right_eq_self.mp hunits)
      rwa [List.append_nil]
    · rw [List.length_append] at hshort
      omega
  · intro h
    rw [literal?_verbatim h]
    rfl

end WidgetTemplates.Script
