import WidgetTemplates.Proofs.Script.Brackets
import WidgetTemplates.Script.Grammar.Token

/-!
# Brackets of tokens

What the scanner takes for a token, a reading of the brackets takes for the same thing: a name or a number is plain
text but for the braces of an escape, which close again; a string, a chunk of a template and a regular expression end
where the scanner says; blanks and comments are read over. So the text of a token leads from the open brackets before
it to those that the token says (`scan_crosses`).
-/

namespace WidgetTemplates.Script.Grammar

/-! ## Plain text -/

/-- Nothing but plain characters of `s` stand before `rest`. -/
def SkipsPlain (s rest : List Char) : Prop := ∃ text, s = text ++ rest ∧ Plain text

namespace SkipsPlain

variable {s t r : List Char} {c : Char}

theorem refl (s : List Char) : SkipsPlain s s := ⟨[], rfl, nofun⟩

/-- A plain character may be skipped first. -/
theorem cons (plain : isPlain c = true) (h : SkipsPlain s r) : SkipsPlain (c :: s) r := by
  obtain ⟨text, rfl, htext⟩ := h
  exact ⟨c :: text, rfl, List.forall_mem_cons.mpr ⟨plain, htext⟩⟩

theorem trans (h : SkipsPlain s t) (h' : SkipsPlain t r) : SkipsPlain s r := by
  obtain ⟨text, rfl, htext⟩ := h
  obtain ⟨more, rfl, hmore⟩ := h'
  exact ⟨text ++ more, (List.append_assoc ..).symm, List.forall_mem_append.mpr ⟨htext, hmore⟩⟩

/-- A run of plain characters is skipped. -/
theorem takeWhile {p : Char → Bool} (plain : ∀ c, p c = true → isPlain c = true) (s : List Char) :
    SkipsPlain s (s.drop (s.takeWhile p).length) := by
  refine ⟨s.takeWhile p, ?_, fun c hc => plain c (List.all_eq_true.mp List.all_takeWhile c hc)⟩
  have htake := List.prefix_iff_eq_take.mp (List.takeWhile_prefix (l := s) p)
  have hsplit := List.take_append_drop (s.takeWhile p).length s
  rw [← htake] at hsplit
  exact hsplit.symm

end SkipsPlain

/-- Digits are plain. -/
theorem isPlain_of_isDigit {c : Char} (h : c.isDigit = true) : isPlain c = true :=
  isPlain_of_class (by decide) h

/-- Hexadecimal digits are plain. -/
theorem isPlain_of_isHexDigit {c : Char} (h : isHexDigit c = true) : isPlain c = true :=
  isPlain_of_class (by decide) h

/-! ## Numbers -/

section Numbers

variable {isDigit : Char → Bool} {s r : List Char}

/-- Digits with separators are skipped. -/
theorem skips_afterDigits? (plain : ∀ c, isDigit c = true → isPlain c = true)
    (h : afterDigits? isDigit s = some r) : SkipsPlain s r := by
  fun_induction afterDigits? isDigit s with
  | case1 =>
    obtain rfl := Option.some.inj h
    exact .refl []
  | case2 c rest digit ih => exact (ih h).cons (plain c digit) |>.cons (by decide)
  | case3 => exact nomatch h
  | case4 => exact nomatch h
  | case5 c rest other single digit ih => exact (ih h).cons (plain c digit)
  | case6 =>
    obtain rfl := Option.some.inj h
    exact .refl _

/-- At the end of a number nothing is skipped. -/
theorem skips_endNumber? (h : endNumber? s = some r) : SkipsPlain s r := by
  rw [endNumber?] at h
  split at h
  · exact nomatch h
  · obtain rfl := Option.some.inj h
    exact .refl s

/-- At least one digit is skipped. -/
theorem skips_afterSomeDigits? (plain : ∀ c, isDigit c = true → isPlain c = true)
    (h : afterSomeDigits? isDigit s = some r) : SkipsPlain s r := by
  rw [afterSomeDigits?.eq_def] at h
  split at h
  · next c rest =>
    split at h
    · next digit => exact (skips_afterDigits? plain h).cons (plain c digit)
    · exact nomatch h
  · exact nomatch h

/-- An exponent is skipped, if there is one. -/
theorem skips_afterExponent? (h : afterExponent? s = some r) : SkipsPlain s r := by
  have hdigits : ∀ {t : List Char}, afterSomeDigits? Char.isDigit t = some r → SkipsPlain t r := fun ht =>
    skips_afterSomeDigits? (fun _ => isPlain_of_isDigit) ht
  rw [afterExponent?.eq_def] at h
  split at h
  · next c rest =>
    split at h
    · next mark =>
      have hmark : isPlain c = true := by
        simp only [Bool.or_eq_true, beq_iff_eq] at mark
        rcases mark with rfl | rfl <;> rfl
      split at h
      · exact ((hdigits h).cons (by decide)).cons hmark
      · exact ((hdigits h).cons (by decide)).cons hmark
      · exact (hdigits h).cons hmark
    · obtain rfl := Option.some.inj h
      exact .refl _
  · obtain rfl := Option.some.inj h
    exact .refl _

/-- An exponent and the end of a number are skipped. -/
theorem skips_exponentAndEnd {t : List Char} (h : (afterExponent? t >>= endNumber?) = some r) : SkipsPlain t r := by
  obtain ⟨u, hexponent, hend⟩ := Option.bind_eq_some_iff.mp h
  exact (skips_afterExponent? hexponent).trans (skips_endNumber? hend)

/-- What stands behind the point of a number is skipped. -/
theorem skips_afterPoint? (h : afterPoint? s = some r) : SkipsPlain s r := by
  rw [afterPoint?] at h
  split at h
  · obtain ⟨u, hdigits, hrest⟩ := Option.bind_eq_some_iff.mp h
    exact (skips_afterSomeDigits? (fun _ => isPlain_of_isDigit) hdigits).trans (skips_exponentAndEnd hrest)
  · exact skips_exponentAndEnd h

/-- Digits behind the mark of a radix are skipped. -/
theorem skips_afterRadix? (plain : ∀ c, isDigit c = true → isPlain c = true)
    (h : afterRadix? isDigit s = some r) : SkipsPlain s r := by
  obtain ⟨u, hdigits, hrest⟩ := Option.bind_eq_some_iff.mp h
  refine (skips_afterSomeDigits? plain hdigits).trans ?_
  split at hrest
  · exact (skips_endNumber? hrest).cons (by decide)
  · exact skips_endNumber? hrest

/-- A number that starts with a zero is skipped. -/
theorem skips_afterOldOctal? (h : afterOldOctal? s = some r) : SkipsPlain s r := by
  have hdigits : SkipsPlain s (s.drop (s.takeWhile Char.isDigit).length) :=
    .takeWhile (fun _ => isPlain_of_isDigit) s
  rw [afterOldOctal?] at h
  split at h
  · split at h
    · next rest hrest =>
      rw [hrest] at hdigits
      exact hdigits.trans ((skips_afterPoint? h).cons (by decide))
    · exact hdigits.trans (skips_exponentAndEnd h)
  · exact hdigits.trans (skips_endNumber? h)

/-- The characters of a number after its first digit are plain. -/
theorem skips_afterNumber? {first : Char} (h : afterNumber? first s = some r) : SkipsPlain s r := by
  have hradix : ∀ {p : Char → Bool} {t : List Char}, specialChars.any p = false →
      afterRadix? p t = some r → SkipsPlain t r := fun apart ht =>
    skips_afterRadix? (fun _ => isPlain_of_class apart) ht
  rw [afterNumber?.eq_def] at h
  split at h
  -- a zero with a letter for the radix
  · exact (hradix (by decide) h).cons (by decide)
  · exact (hradix (by decide) h).cons (by decide)
  · exact (hradix (by decide) h).cons (by decide)
  · exact (hradix (by decide) h).cons (by decide)
  · exact (hradix (by decide) h).cons (by decide)
  · exact (hradix (by decide) h).cons (by decide)
  · split at h
    · exact skips_afterOldOctal? h
    · obtain ⟨u, hdigits, hrest⟩ := Option.bind_eq_some_iff.mp h
      have hwhole : SkipsPlain s u := by
        split at hdigits
        · obtain rfl := Option.some.inj hdigits
          exact .refl _
        · exact skips_afterDigits? (fun _ => isPlain_of_isDigit) hdigits
      refine hwhole.trans ?_
      split at hrest
      · exact (skips_afterPoint? hrest).cons (by decide)
      · exact (skips_endNumber? hrest).cons (by decide)
      · exact skips_exponentAndEnd hrest

end Numbers

/-! ## Readings of a part -/

/-- What stands before `rest` in `s` is read from one region to another, whatever the answers to come and the open
brackets are, and opens the brackets `pushed`. -/
def Reads (start stop : Region) (pushed : List Bracket) (s rest : List Char) : Prop :=
  ∃ text, s = text ++ rest ∧ ∀ slashes opened,
    Reading.run ⟨slashes, start, opened⟩ text = some ⟨slashes, stop, pushed ++ opened⟩

namespace Reads

variable {start m stop : Region} {pushed : List Bracket} {s t rest : List Char} {c : Char}

theorem nil (region : Region) (s : List Char) : Reads region region [] s s := ⟨[], rfl, fun _ _ => rfl⟩

/-- A last character is read. -/
theorem last (h : ∀ slashes opened,
    Reading.next ⟨slashes, start, opened⟩ c = some ⟨slashes, stop, pushed ++ opened⟩) (rest : List Char) :
    Reads start stop pushed (c :: rest) rest :=
  ⟨[c], rfl, fun slashes opened => Reading.run_of_next (h slashes opened) []⟩

/-- A character is read before others. -/
theorem cons (h : ∀ slashes opened, Reading.next ⟨slashes, start, opened⟩ c = some ⟨slashes, m, opened⟩)
    (h' : Reads m stop pushed s rest) : Reads start stop pushed (c :: s) rest := by
  obtain ⟨text, rfl, hrun⟩ := h'
  exact ⟨c :: text, rfl, fun slashes opened => (Reading.run_of_next (h slashes opened) text).trans (hrun _ _)⟩

/-- Characters that leave the reading where it is may stand in front. -/
theorem stay {quiet : List Char}
    (h : ∀ c ∈ quiet, ∀ slashes opened, Reading.next ⟨slashes, start, opened⟩ c = some ⟨slashes, start, opened⟩)
    (h' : Reads start stop pushed s rest) : Reads start stop pushed (quiet ++ s) rest := by
  induction quiet with
  | nil => exact h'
  | cons c quiet ih =>
    rw [List.forall_mem_cons] at h
    exact cons h.1 (ih h.2)

/-- A part is read up to where the next one starts. -/
theorem trans (h : Reads start m [] s t) (h' : Reads m stop pushed t rest) : Reads start stop pushed s rest := by
  obtain ⟨text, rfl, hrun⟩ := h
  obtain ⟨more, rfl, hmore⟩ := h'
  refine ⟨text ++ more, (List.append_assoc ..).symm, fun slashes opened => ?_⟩
  rw [Reading.run_of_run (hrun slashes opened), List.nil_append, hmore]

/-- Plain characters are read as script text. -/
theorem of_skipsPlain (h : SkipsPlain s rest) : Reads .script .script [] s rest := by
  obtain ⟨text, rfl, hplain⟩ := h
  exact stay (fun c hc _ _ => Reading.inScript_of_isPlain (hplain c hc) _) (nil .script rest)

end Reads

/-! ## Escapes -/

/-- The code of an escape in braces ends at the brace. -/
theorem bracedCode?_eq {value : Option Nat} {s rest : List Char} {n : Nat} (h : bracedCode? value s = some (n, rest)) :
    ∃ digits, s = digits ++ '\x7d' :: rest ∧ ∀ c ∈ digits, isHexDigit c = true := by
  induction s generalizing value with
  | nil => exact nomatch h
  | cons c s ih =>
    rw [bracedCode?] at h
    split at h
    · next close =>
      obtain ⟨_, -, hpair⟩ := Option.map_eq_some_iff.mp h
      obtain ⟨-, rfl⟩ := Prod.mk.inj hpair
      exact ⟨[], by rw [eq_of_beq close]; rfl, nofun⟩
    · obtain ⟨digit, hdigit, hrest⟩ := Option.bind_eq_some_iff.mp h
      dsimp only at hrest
      split at hrest
      · exact nomatch hrest
      · obtain ⟨digits, rfl, hdigits⟩ := ih hrest
        have hhex : isHexDigit c = true := by rw [isHexDigit, hdigit]; rfl
        exact ⟨c :: digits, rfl, List.forall_mem_cons.mpr ⟨hhex, hdigits⟩⟩

/-- Characters that have values as hexadecimal digits are such digits. -/
theorem isHexDigit_of_mapM {digits : List Char} {values : List Nat} (h : digits.mapM hexDigit? = some values) :
    ∀ c ∈ digits, isHexDigit c = true := by
  induction digits generalizing values with
  | nil => exact nofun
  | cons c digits ih =>
    rw [List.mapM_cons] at h
    obtain ⟨value, hvalue, hrest⟩ := Option.bind_eq_some_iff.mp h
    obtain ⟨others, hothers, -⟩ := Option.bind_eq_some_iff.mp hrest
    have hhex : isHexDigit c = true := by rw [isHexDigit, hvalue]; rfl
    exact List.forall_mem_cons.mpr ⟨hhex, ih hothers⟩

/-- The code of an escape is written with hexadecimal digits, in braces or not. -/
theorem escapedCode?_eq {s rest : List Char} {n : Nat} (h : escapedCode? s = some (n, rest)) :
    ∃ digits, (s = digits ++ rest ∨ s = '\x7b' :: (digits ++ '\x7d' :: rest)) ∧ ∀ c ∈ digits, isHexDigit c = true := by
  rw [escapedCode?.eq_def] at h
  split at h
  · obtain ⟨digits, rfl, hdigits⟩ := bracedCode?_eq h
    exact ⟨digits, .inr rfl, hdigits⟩
  · next a b c d rest' hbrace =>
    obtain ⟨values, hvalues, hrest⟩ := Option.bind_eq_some_iff.mp h
    obtain ⟨-, rfl⟩ := Prod.mk.inj (Option.some.inj hrest)
    exact ⟨[a, b, c, d], .inl rfl, isHexDigit_of_mapM hvalues⟩
  · exact nomatch h

/-- The code of an escape in braces does not depend on what follows it. -/
theorem bracedCode?_append {value : Option Nat} {s rest : List Char} {n : Nat}
    (h : bracedCode? value s = some (n, rest)) (more : List Char) :
    bracedCode? value (s ++ more) = some (n, rest ++ more) := by
  induction s generalizing value with
  | nil => exact nomatch h
  | cons c s ih =>
    rw [List.cons_append, bracedCode?]
    rw [bracedCode?] at h
    split at h
    · next close =>
      obtain ⟨_, hvalue, hpair⟩ := Option.map_eq_some_iff.mp h
      obtain ⟨rfl, rfl⟩ := Prod.mk.inj hpair
      rw [if_pos close, hvalue, Option.map_some]
    · next inside =>
      obtain ⟨digit, hdigit, h⟩ := Option.bind_eq_some_iff.mp h
      dsimp only at h
      split at h
      · exact nomatch h
      · next small =>
        rw [if_neg inside, hdigit, Option.bind_eq_bind, Option.bind_some]
        dsimp only
        rw [if_neg small, ih h]

/-- The code of an escape does not depend on what follows it. -/
theorem escapedCode?_append {s rest : List Char} {n : Nat} (h : escapedCode? s = some (n, rest))
    (more : List Char) : escapedCode? (s ++ more) = some (n, rest ++ more) := by
  rw [escapedCode?.eq_def] at h
  split at h
  · exact bracedCode?_append h more
  · next a b c d _ noBrace =>
    obtain ⟨digits, hdigits, h⟩ := Option.bind_eq_some_iff.mp h
    obtain ⟨rfl, rfl⟩ := Prod.mk.inj (Option.some.inj h)
    rw [List.cons_append, List.cons_append, List.cons_append, List.cons_append, escapedCode?]
    · rw [hdigits]
      rfl
    · exact noBrace
  · exact nomatch h

/-- A character that an escape takes along after its first one. -/
def followsEscape (c : Char) : Bool := isHexDigit c || c == '\x7b' || c == '\x7d' || c == '\n'

/-- After the character behind the backslash an escape takes along none but certain characters. -/
theorem afterEscape_eq (inTemplate : Bool) (c : Char) (s : List Char) :
    ∃ more, s = more ++ (afterEscape inTemplate (c :: s)).1 ∧ ∀ d ∈ more, followsEscape d = true := by
  have hhex : ∀ {d : Char}, isHexDigit d = true → followsEscape d = true := fun h => by simp [followsEscape, h]
  have hnone : ∃ more, s = more ++ s ∧ ∀ d ∈ more, followsEscape d = true := ⟨[], rfl, nofun⟩
  rw [afterEscape.eq_def]
  split
  · next rest hs =>
    obtain ⟨rfl, rfl⟩ := List.cons.inj hs
    -- `\x` takes two digits along
    split
    · next a b more =>
      split
      · next hab =>
        rw [Bool.and_eq_true] at hab
        exact ⟨[a, b], rfl, by simp [hhex hab.1, hhex hab.2]⟩
      · exact ⟨[], rfl, nofun⟩
    · exact hnone
  · next rest hs =>
    obtain ⟨rfl, rfl⟩ := List.cons.inj hs
    -- `\u` takes its digits along, with the braces around them
    split
    · next code more hcode =>
      obtain ⟨digits, hs | hs, hdigits⟩ := escapedCode?_eq hcode
      · exact ⟨digits, hs, fun d hd => hhex (hdigits d hd)⟩
      · refine ⟨'\x7b' :: (digits ++ ['\x7d']), by simp [hs], ?_⟩
        simp only [List.forall_mem_cons, List.forall_mem_append]
        exact ⟨rfl, fun d hd => hhex (hdigits d hd), rfl, nofun⟩
    · exact hnone
  · next rest hs =>
    obtain ⟨rfl, rfl⟩ := List.cons.inj hs
    -- a line break of two characters is one escape
    exact ⟨['\n'], rfl, List.forall_mem_singleton.mpr rfl⟩
  · next rest hs =>
    obtain ⟨rfl, rfl⟩ := List.cons.inj hs
    exact hnone
  · next rest hs =>
    obtain ⟨rfl, rfl⟩ := List.cons.inj hs
    exact hnone
  · next hs => exact nomatch hs

/-! ## Names -/

/-- The first character of a name is plain. -/
theorem isPlain_of_isNameStart {c : Char} (h : isNameStart c = true) : isPlain c = true :=
  isPlain_of_class (by decide +kernel) h

/-- The characters of a name are plain. -/
theorem isPlain_of_isNamePart {c : Char} (h : isNamePart c = true) : isPlain c = true :=
  isPlain_of_class (by decide +kernel) h

/-- An escape in script text is read to its end. -/
theorem Reads.escapedCode? {stop : Region} {pushed : List Bracket} {s t rest : List Char} {n : Nat}
    (h : escapedCode? s = some (n, t)) (h' : Reads .script stop pushed t rest) : Reads .script stop pushed s rest := by
  obtain ⟨digits, hs, hdigits⟩ := escapedCode?_eq h
  have hplain : Plain digits := fun c hc => isPlain_of_isHexDigit (hdigits c hc)
  rcases hs with rfl | rfl
  · exact (of_skipsPlain ⟨digits, rfl, hplain⟩).trans h'
  · refine trans ?_ h'
    refine ⟨'\x7b' :: (digits ++ ['\x7d']), by simp, fun slashes opened => ?_⟩
    have hinside : Reading.run ⟨slashes, .script, .curly :: opened⟩ digits =
        some ⟨slashes, .script, .curly :: opened⟩ := by
      have hreads : Reads .script .script [] digits [] := of_skipsPlain ⟨digits, (List.append_nil _).symm, hplain⟩
      obtain ⟨text, hs, hrun⟩ := hreads
      rw [List.append_nil] at hs
      exact hs ▸ hrun slashes _
    rw [Reading.run_of_next rfl, Reading.run_of_run hinside]
    rfl

/-- A name is read as script text, escapes included. -/
theorem reads_name? {fuel : Nat} {start : Bool} {s cs rest : List Char} {escaped : Bool}
    (h : name? fuel start s = some (cs, escaped, rest)) : Reads .script .script [] s rest := by
  induction fuel generalizing start s cs escaped with
  | zero => exact nomatch h
  | succ fuel ih =>
    rcases s with _ | ⟨c, s⟩
    · obtain ⟨-, -, rfl⟩ : [] = cs ∧ false = escaped ∧ [] = rest := by simpa [name?] using h
      exact .nil _ _
    -- the characters that a name may begin or go on with are plain
    · have hclass : ∀ d, (if start = true then isNameStart else isNamePart) d = true → isPlain d = true := by
        cases start
        · exact fun _ => isPlain_of_isNamePart
        · exact fun _ => isPlain_of_isNameStart
      rw [name?.eq_def] at h
      dsimp only at h
      generalize (if start = true then isNameStart else isNamePart) = allowed at h hclass
      split at h
      · next slash =>
        have hbackslash : isPlain c = true := by rw [eq_of_beq slash]; rfl
        split at h
        · next more =>
          obtain ⟨⟨code, t⟩, hcode, hname⟩ := Option.bind_eq_some_iff.mp h
          dsimp only at hname
          split at hname
          · obtain ⟨⟨cs', escaped', rest'⟩, hrest, hpair⟩ := Option.bind_eq_some_iff.mp hname
            obtain ⟨-, -, rfl⟩ : _ ∧ _ ∧ rest' = rest := by simpa using hpair
            -- the backslash, the `u` and the digits of the escape are plain
            refine .cons (fun _ _ => Reading.inScript_of_isPlain hbackslash _) ?_
            exact .cons (fun _ _ => Reading.inScript_of_isPlain (by decide) _) (.escapedCode? hcode (ih hrest))
          · exact nomatch hname
        · exact nomatch h
      · split at h
        · next part =>
          obtain ⟨⟨cs', escaped', rest'⟩, hrest, hpair⟩ := Option.bind_eq_some_iff.mp h
          obtain ⟨-, -, rfl⟩ : _ ∧ _ ∧ rest' = rest := by simpa using hpair
          exact .cons (fun _ _ => Reading.inScript_of_isPlain (hclass c part) _) (ih hrest)
        · obtain ⟨-, -, rfl⟩ : [] = cs ∧ false = escaped ∧ c :: s = rest := by simpa using h
          exact .nil _ _

/-- No name goes on in the text. -/
def EndsName (s : List Char) : Prop := ∀ c ∈ s.head?, isNamePart c = false ∧ c ≠ '\\'

/-- A name is read as the same name with what follows it, if no name goes on there. -/
theorem name?_append {fuel : Nat} {start : Bool} {s cs : List Char} {escaped : Bool}
    (h : name? fuel start s = some (cs, escaped, [])) {rest : List Char} (ends : EndsName rest) {enough : Nat}
    (hle : fuel ≤ enough) : name? enough start (s ++ rest) = some (cs, escaped, rest) := by
  induction fuel generalizing start s cs escaped enough with
  | zero => exact nomatch h
  | succ fuel ih =>
    obtain ⟨enough, rfl⟩ := Nat.exists_eq_add_one_of_ne_zero (n := enough) (by omega)
    rcases s with _ | ⟨c, s⟩
    · obtain ⟨rfl, rfl⟩ : [] = cs ∧ false = escaped := by simpa [name?] using h
      rcases rest with _ | ⟨c, rest⟩
      · rfl
      -- what follows begins with no character of a name
      · obtain ⟨stop, noSlash⟩ := ends c rfl
        have hallowed : (if start = true then isNameStart else isNamePart) c = false := by
          rcases start with _ | _
          · exact stop
          · rw [isNamePart, Bool.or_eq_false_iff, Bool.or_eq_false_iff] at stop
            exact stop.1.1
        simp [name?, noSlash, hallowed]
    · rw [List.cons_append, name?.eq_def]
      rw [name?.eq_def] at h
      dsimp only at h ⊢
      generalize (if start = true then isNameStart else isNamePart) = allowed at h ⊢
      split at h
      · next slash =>
        rw [if_pos slash]
        split at h
        · next more =>
          obtain ⟨⟨code, t⟩, hcode, h⟩ := Option.bind_eq_some_iff.mp h
          dsimp only at h
          split at h
          · next fits =>
            obtain ⟨⟨cs', escaped', rest'⟩, hname, hpair⟩ := Option.bind_eq_some_iff.mp h
            obtain ⟨rfl, rfl, rfl⟩ : _ ∧ _ ∧ rest' = [] := by simpa using hpair
            simp [escapedCode?_append hcode, fits, ih hname (Nat.le_of_succ_le_succ hle)]
          · exact nomatch h
        · exact nomatch h
      · next noSlash =>
        rw [if_neg noSlash]
        split at h
        · next fits =>
          obtain ⟨⟨cs', escaped', rest'⟩, hname, hpair⟩ := Option.bind_eq_some_iff.mp h
          obtain ⟨rfl, rfl, rfl⟩ : _ ∧ _ ∧ rest' = [] := by simpa using hpair
          simp [fits, ih hname (Nat.le_of_succ_le_succ hle)]
        · simp at h

/-- What is left after a part is no longer than the text. -/
theorem Reads.length_le {start stop : Region} {pushed : List Bracket} {s rest : List Char}
    (h : Reads start stop pushed s rest) : rest.length ≤ s.length := by
  obtain ⟨text, rfl, -⟩ := h
  simp

/-- A name takes the first character along if that begins one. -/
theorem length_name?_le {fuel : Nat} {c : Char} {s cs rest : List Char} {escaped : Bool}
    (begins : (isNameStart c || c == '\\') = true) (h : name? fuel true (c :: s) = some (cs, escaped, rest)) :
    rest.length ≤ s.length := by
  rcases fuel with _ | fuel
  · exact nomatch h
  · rw [name?.eq_def] at h
    dsimp only at h
    rw [if_pos rfl] at h
    split at h
    · split at h
      · next more =>
        obtain ⟨⟨code, t⟩, hcode, hname⟩ := Option.bind_eq_some_iff.mp h
        dsimp only at hname
        split at hname
        · obtain ⟨⟨cs', escaped', rest'⟩, hrest, hpair⟩ := Option.bind_eq_some_iff.mp hname
          obtain ⟨-, -, rfl⟩ : _ ∧ _ ∧ rest' = rest := by simpa using hpair
          have hlength := (Reads.escapedCode? hcode (reads_name? hrest)).length_le
          simp only [List.length_cons]
          omega
        · exact nomatch hname
      · exact nomatch h
    · next noSlash =>
      rw [if_pos (by simpa [noSlash] using begins)] at h
      obtain ⟨⟨cs', escaped', rest'⟩, hrest, hpair⟩ := Option.bind_eq_some_iff.mp h
      obtain ⟨-, -, rfl⟩ : _ ∧ _ ∧ rest' = rest := by simpa using hpair
      exact (reads_name? hrest).length_le

/-! ## Strings, templates and regular expressions -/

/-- A string is read to its closing quote. -/
theorem reads_afterString? {quote : Char} (kind : quote = '"' ∨ quote = '\'') {fuel : Nat} {s rest : List Char}
    (h : afterString? quote fuel s = some rest) : Reads (.quoted quote false) .script [] s rest := by
  -- nothing that an escape takes along closes the string or begins another escape
  have hquiet : ∀ d, followsEscape d = true → d ≠ quote ∧ d ≠ '\\' := by
    intro d hd
    constructor
    · rintro rfl
      rcases kind with rfl | rfl <;> exact absurd hd (by decide)
    · rintro rfl
      exact absurd hd (by decide)
  induction fuel generalizing s with
  | zero => cases h
  | succ fuel ih =>
    rcases s with _ | ⟨c, s⟩
    · cases h
    rw [afterString?] at h
    split at h
    · next close =>
      obtain rfl := Option.some.inj h
      exact .last (fun _ _ => by simp [Reading.next, close]) s
    next other =>
    split at h
    · next slash =>
      rcases s with _ | ⟨d, s⟩
      · cases h
      obtain ⟨more, hs, hmore⟩ := afterEscape_eq false d s
      dsimp only at h
      split at h
      · refine .cons (m := .quoted quote true) (fun _ _ => by simp [Reading.next, other, slash]) ?_
        refine .cons (m := .quoted quote false) (fun _ _ => by simp [Reading.next]) ?_
        rw [hs]
        refine .stay (fun e he _ _ => ?_) (ih h)
        simp [Reading.next, hquiet e (hmore e he)]
      · cases h
    next noSlash =>
    split at h
    · cases h
    · exact .cons (fun _ _ => by simp [Reading.next, other, noSlash]) (ih h)

/-- The chunk of a template is read to its end, where the literal ends or a substitution begins. -/
theorem reads_chunk? {fuel : Nat} {fine : Bool} (dollar : Bool) {s : List Char} {k : Chunk}
    (h : chunk? fuel fine s = some k) (apart : dollar = true → s.head? ≠ some '\x7b') :
    Reads (.chunk false dollar) .script (if k.continues then [.substitution] else []) s k.rest := by
  induction fuel generalizing s fine dollar with
  | zero => cases h
  | succ fuel ih =>
    rcases s with _ | ⟨c, s⟩
    · cases h
    rw [chunk?] at h
    split at h
    · next close =>
      obtain rfl := Option.some.inj h
      exact .last (fun _ _ => by simp [Reading.next, Reading.inChunk, close]) s
    next other =>
    split at h
    · next opens =>
      obtain rfl := Option.some.inj h
      rw [Bool.and_eq_true, beq_iff_eq, beq_iff_eq] at opens
      obtain ⟨rfl, hs⟩ := opens
      obtain ⟨rest, rfl⟩ := List.head?_eq_some_iff.mp hs
      refine .cons (m := .chunk false true) (fun _ _ => by simp [Reading.next, Reading.inChunk]) ?_
      exact .last (fun _ _ => by simp [Reading.next, Reading.inChunk]) rest
    next literal =>
    -- a dollar sign before this brace would have opened a substitution
    have hbrace : (dollar && c == '\x7b') = false := by
      rcases dollar with _ | _
      · rfl
      · simpa using apart rfl
    split at h
    · next slash =>
      rcases s with _ | ⟨d, s⟩
      · rcases fuel with _ | fuel <;> cases h
      obtain ⟨more, hs, hmore⟩ := afterEscape_eq true d s
      dsimp only at h
      refine .cons (m := .chunk true false)
        (fun _ _ => by rw [eq_of_beq slash]; simp [Reading.next, Reading.inChunk]) ?_
      refine .cons (m := .chunk false false) (fun _ _ => by simp [Reading.next, Reading.inChunk]) ?_
      rw [hs]
      refine .stay (fun e he _ _ => ?_) (ih _ h (by simp))
      have hquiet : e ≠ '\x60' ∧ e ≠ '\\' ∧ e ≠ '$' := by
        refine ⟨?_, ?_, ?_⟩ <;> rintro rfl <;> exact absurd (hmore _ he) (by decide)
      simp [Reading.next, Reading.inChunk, hquiet]
    · next noSlash =>
      refine .cons (m := .chunk false (c == '$')) (fun _ _ => ?_) (ih _ h ?_)
      · simp [Reading.next, Reading.inChunk, other, hbrace, noSlash]
      · intro hdollar
        simpa [hdollar] using literal

/-- The body of a regular expression is read to its closing slash. -/
theorem reads_afterRegexBody? {inClass escaped : Bool} {s rest : List Char}
    (h : afterRegexBody? inClass escaped s = some rest) : Reads (.regex inClass escaped) .script [] s rest := by
  induction s generalizing inClass escaped with
  | nil => exact nomatch h
  | cons c s ih =>
    rw [afterRegexBody?] at h
    split at h
    · exact nomatch h
    next inLine =>
    split at h
    · next hescaped => exact .cons (fun _ _ => by simp [Reading.next, Reading.inRegex, inLine, hescaped]) (ih h)
    next plain =>
    split at h
    · next close =>
      obtain rfl := Option.some.inj h
      exact .last (fun _ _ => by simp [Reading.next, Reading.inRegex, inLine, plain, close]) s
    next inside =>
    split at h
    · next opens =>
      exact .cons (fun _ _ => by simp [Reading.next, Reading.inRegex, inLine, plain, inside, opens]) (ih h)
    next noOpen =>
    split at h
    · next closes =>
      exact .cons (fun _ _ => by simp [Reading.next, Reading.inRegex, inLine, plain, inside, noOpen, closes]) (ih h)
    · next noClose =>
      exact .cons (fun _ _ => by simp [Reading.next, Reading.inRegex, inLine, plain, inside, noOpen, noClose]) (ih h)

/-! ## Blanks and comments -/

/-- What a scan over blanks reads in; `star` tells whether it is right behind a star. -/
def Gap.region (star : Bool) : Gap → Region
  | .plain => .script
  | .line => .lineComment
  | .block => .blockComment star

/-- Line ends are plain. -/
theorem isPlain_of_isLineEnd {c : Char} (h : isLineEnd c = true) : isPlain c = true :=
  isPlain_of_class (by decide) h

/-- Blanks are plain. -/
theorem isPlain_of_isSpace {c : Char} (h : isSpace c = true) : isPlain c = true :=
  isPlain_of_class (by decide) h

/-- Blanks and comments are read to their end, unless the text ends in them. -/
theorem reads_afterBlanks? {gap : Gap} {newLine newLine' : Bool} (star : Bool) {s here : List Char}
    (h : afterBlanks? gap newLine s = some (newLine', here)) (more : here ≠ [])
    (apart : star = true → s.head? ≠ some '/') : Reads (gap.region star) .script [] s here := by
  fun_induction afterBlanks? gap newLine s generalizing star with
  | case1 newLine rest ih =>
    exact .cons (m := .slash) (fun _ _ => rfl) (.cons (fun _ _ => rfl) (ih false h (by simp)))
  | case2 newLine rest ih =>
    exact .cons (m := .slash) (fun _ _ => rfl) (.cons (fun _ _ => rfl) (ih false h (by simp)))
  | case3 newLine c rest _ _ lineEnd ih =>
    exact .cons (fun _ _ => Reading.inScript_of_isPlain (isPlain_of_isLineEnd lineEnd) _) (ih false h (by simp))
  | case4 newLine c rest _ _ _ space ih =>
    exact .cons (fun _ _ => Reading.inScript_of_isPlain (isPlain_of_isSpace space) _) (ih false h (by simp))
  | case5 newLine c rest =>
    obtain ⟨-, rfl⟩ := Prod.mk.inj (Option.some.inj h)
    exact .nil _ _
  | case6 newLine c rest lineEnd ih =>
    exact .cons (fun _ _ => by simp [Gap.region, Reading.next, lineEnd]) (ih false h (by simp))
  | case7 newLine c rest inLine ih =>
    exact .cons (fun _ _ => by simp [Gap.region, Reading.next, inLine]) (ih false h (by simp))
  | case8 newLine rest ih =>
    exact .cons (m := .blockComment true) (fun _ _ => by simp [Gap.region, Reading.next])
      (.cons (fun _ _ => rfl) (ih false h (by simp)))
  | case9 newLine c rest inside ih =>
    refine .cons (m := .blockComment (c == '*')) (fun _ _ => ?_) (ih (c == '*') h ?_)
    -- the slash that would end the comment here is excluded
    · have hopen : (star && c == '/') = false := by
        rcases star with _ | _
        · rfl
        · simpa using apart rfl
      simp [Gap.region, Reading.next, hopen]
    · intro hstar hslash
      obtain ⟨rest', rfl⟩ := List.head?_eq_some_iff.mp hslash
      exact inside rest' (eq_of_beq hstar) rfl
  | case10 => cases h
  | case11 =>
    obtain ⟨-, rfl⟩ := Prod.mk.inj (Option.some.inj h)
    exact absurd rfl more

/-- A text that does not start with a comment. -/
def StartsNoComment (s : List Char) : Prop := ∀ c rest, s = '/' :: c :: rest → c ≠ '/' ∧ c ≠ '*'

/-- Behind blanks and comments stands no further comment. -/
theorem startsNoComment_afterBlanks? {gap : Gap} {newLine newLine' : Bool} {s here : List Char}
    (h : afterBlanks? gap newLine s = some (newLine', here)) : StartsNoComment here := by
  fun_induction afterBlanks? gap newLine s with
  | case5 newLine c rest noLine noBlock =>
    obtain ⟨-, rfl⟩ := Prod.mk.inj (Option.some.inj h)
    rintro d more hs
    obtain ⟨rfl, rfl⟩ := List.cons.inj hs
    exact ⟨fun heq => noLine more rfl (heq ▸ rfl), fun heq => noBlock more rfl (heq ▸ rfl)⟩
  | case10 => exact nomatch h
  | case11 =>
    obtain ⟨-, rfl⟩ := Prod.mk.inj (Option.some.inj h)
    exact fun _ _ => nofun
  | _ =>
    rename_i ih
    exact ih h

/-! ## Tokens -/

/-- A token leads from the open brackets `k` to `k'`. -/
def Token.Leads (k k' : List Bracket) : Token → Prop
  | .mark m => Passes (mark m).slashes m.toList k k'
  | .template continues _ => k' = (if continues then [.substitution] else []) ++ k
  | .invalid => False
  | _ => k' = k

/-- A punctuator of plain characters has no slash. -/
theorem Token.slashes_of_plain {m : String} (plain : Plain m.toList) : (mark m).slashes = [] := by
  rw [slashes]
  all_goals
    intro h
    obtain rfl := Token.mark.inj h
    exact absurd plain (by decide)

/-- The punctuator at the front of a text is a part of it. -/
theorem mark?_eq {s : List Char} {m : String} (h : mark? s = some m) :
    m.toList ≠ [] ∧ s = m.toList ++ s.drop m.length := by
  have hmem : m ∈ marks := List.mem_of_find?_eq_some h
  have hnonempty : ∀ m ∈ marks, m.toList ≠ [] := by decide
  refine ⟨hnonempty m hmem, ?_⟩
  have hfound := List.find?_some h
  rw [Bool.and_eq_true, List.isPrefixOf_iff_prefix] at hfound
  have htake := List.prefix_iff_eq_take.mp hfound.1
  have hsplit := List.take_append_drop m.toList.length s
  rw [← htake, String.length_toList] at hsplit
  exact hsplit.symm

/-- What is read as script text passes. -/
theorem Reads.passes {pushed : List Bracket} {s rest : List Char} (h : Reads .script .script pushed s rest)
    (k : List Bracket) : ∃ text, s = text ++ rest ∧ Passes [] text k (pushed ++ k) := by
  obtain ⟨text, hs, hrun⟩ := h
  exact ⟨text, hs, hrun [] k⟩

/-- A part of a text, which is not empty, leads by these answers from some open brackets to others. -/
def Crosses (slashes : List Slash) (s rest : List Char) (k k' : List Bracket) : Prop :=
  ∃ text, text ≠ [] ∧ s = text ++ rest ∧ Passes slashes text k k'

/-- A part that is read and is not empty crosses to its end. -/
theorem Crosses.of_reads {pushed : List Bracket} {c : Char} {s rest : List Char}
    (h : Reads .script .script pushed (c :: s) rest) (shorter : rest.length ≤ s.length) (k : List Bracket) :
    Crosses [] (c :: s) rest k (pushed ++ k) := by
  obtain ⟨text, hs, hpasses⟩ := h.passes k
  refine ⟨text, ?_, hs, hpasses⟩
  rintro rfl
  have hlength := congrArg List.length hs
  simp only [List.nil_append, List.length_cons] at hlength
  omega

/-- A first character leads into a part that crosses to its end. -/
theorem Crosses.of_cons {mid : Region} {pushed : List Bracket} {c : Char} {s rest : List Char}
    (h : ∀ slashes opened, Reading.next ⟨slashes, .script, opened⟩ c = some ⟨slashes, mid, opened⟩)
    (h' : Reads mid .script pushed s rest) (k : List Bracket) : Crosses [] (c :: s) rest k (pushed ++ k) :=
  .of_reads (.cons h h') h'.length_le k

/-- The text of a token leads to the open brackets that the token says, and its slashes are what the token says. -/
theorem scan_crosses {c : Char} {s : List Char} {k k' : List Bracket} (leads : (scan (c :: s)).token.Leads k k') :
    Crosses (scan (c :: s)).token.slashes (c :: s) (scan (c :: s)).rest k k' := by
  have hplain : ∀ {d : Char} {rest : List Char}, isPlain d = true → SkipsPlain s rest → Crosses [] (d :: s) rest k k :=
    fun hd h => .of_cons (fun _ _ => Reading.inScript_of_isPlain hd _) (.of_skipsPlain h) k
  generalize hscan : scan (c :: s) = scanned at leads ⊢
  rw [scan.eq_def] at hscan
  dsimp only at hscan
  -- one case for each kind of token, in the order in which the scanner tries them
  split at hscan
  · next begins =>
    split at hscan
    · next hname =>
      subst hscan
      rw [show k' = k from leads]
      exact .of_reads (reads_name? hname) (length_name?_le begins hname) k
    · exact (hscan ▸ leads).elim
  split at hscan
  · next sign =>
    split at hscan
    · next hname =>
      subst hscan
      rw [show k' = k from leads]
      have hsign : isPlain c = true := by rw [eq_of_beq sign]; rfl
      exact .of_cons (fun _ _ => Reading.inScript_of_isPlain hsign _) (reads_name? hname) k
    · exact (hscan ▸ leads).elim
  split at hscan
  · next digit =>
    split at hscan
    · next hnumber =>
      subst hscan
      rw [show k' = k from leads]
      exact hplain (isPlain_of_isDigit digit) (skips_afterNumber? hnumber)
    · exact (hscan ▸ leads).elim
  split at hscan
  · next point =>
    split at hscan
    · next hnumber =>
      subst hscan
      rw [show k' = k from leads]
      have hpoint : isPlain c = true := by
        rw [Bool.and_eq_true] at point
        rw [eq_of_beq point.1]
        rfl
      exact hplain hpoint (skips_afterPoint? hnumber)
    · exact (hscan ▸ leads).elim
  split at hscan
  · next kind =>
    split at hscan
    · next hstring =>
      subst hscan
      rw [show k' = k from leads]
      refine .of_cons (fun _ _ => ?_) (reads_afterString? (by simpa using kind) hstring) k
      simp [Reading.next, Reading.inScript, kind]
    · exact (hscan ▸ leads).elim
  split at hscan
  · next grave =>
    split at hscan
    · next chunk hchunk =>
      subst hscan
      rw [show k' = _ from leads]
      refine .of_cons (fun _ _ => ?_) (reads_chunk? false hchunk (by simp)) k
      rw [eq_of_beq grave]
      rfl
    · exact (hscan ▸ leads).elim
  split at hscan
  · next m hmark =>
    subst hscan
    obtain ⟨hnonempty, hs⟩ := mark?_eq hmark
    exact ⟨m.toList, hnonempty, hs, leads⟩
  · exact (hscan ▸ leads).elim

/-- A punctuator is the text that it is scanned from. -/
theorem scan_mark {s : List Char} {m : String} (h : (scan s).token = .mark m) :
    s = m.toList ++ (scan s).rest := by
  generalize hscan : scan s = scanned at h ⊢
  rw [scan.eq_def] at hscan
  grind [mark?_eq]

end WidgetTemplates.Script.Grammar
