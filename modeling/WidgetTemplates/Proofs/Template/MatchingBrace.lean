import WidgetTemplates.Proofs.Template.Parts

/-!
# The matching brace

The search for the end of a span (`spanBraces?`) keeps two counters where expressions nest without bound. `Scan` is
that search character by character. It stops at the matching brace exactly if it comes through the text in front of
it and is back between the braces there (`braceEnd?_eq_iff`), whatever follows.

`Nested` says how expressions nest. Inside a substitution of a template literal the search counts the ends of
substitutions only, so it does not always come through: it does if no other braces stand inside substitutions
(`Nested.leadsTo`), and a string that holds the start of a substitution keeps it from stopping
(`braceEnd?_of_quoted_substitution`).
-/

namespace WidgetTemplates.Template

/-- The number of characters up to the brace that closes the one at the front. -/
def braceEnd? (text : List Char) : Option Nat := (spanBraces? (.braces 0) text).map List.length

/-! ## Character by character -/

/-- The search for the end of a span between two characters: what encloses the next one, whether the last one was a
backslash that takes it along, and whether the last one was a dollar sign. -/
structure Scan where
  enclosure : Enclosure
  escaped : Bool := false
  dollar : Bool := false

namespace Scan

variable {s t : Scan} {c : Char} {front : List Char}

/-- The search after a character; none if it closes the last open brace. -/
def next? (s : Scan) (c : Char) : Option Scan :=
  if s.escaped then some { enclosure := s.enclosure }
  else if c == '\\' then some { enclosure := s.enclosure, escaped := true }
  else if s.dollar && s.enclosure.opensSubstitution '$' c then some { enclosure := s.enclosure.deeper }
  else if s.enclosure.closes c then none
  else some { enclosure := s.enclosure.next c, dollar := c == '$' }

/-- The search after a text; none if it stops inside. -/
def run? (s : Scan) (text : List Char) : Option Scan := text.foldlM next? s

/-- The text up to and including the character at which the search stops. -/
def span? (s : Scan) : List Char → Option (List Char)
  | [] => none
  | c :: rest =>
    match s.next? c with
    | none => some [c]
    | some t => (t.span? rest).map (c :: ·)

/-- A search goes on with the next character. -/
theorem run?_cons (h : s.next? c = some t) (rest : List Char) : s.run? (c :: rest) = t.run? rest := by
  rw [run?, List.foldlM_cons, h]
  rfl

/-- A search over two texts in a row goes over one after the other. -/
theorem run?_append (h : s.run? front = some t) (rest : List Char) : s.run? (front ++ rest) = t.run? rest := by
  rw [run?] at h
  rw [run?, List.foldlM_append, h]
  rfl

/-- A character that does not stop the search is in front of the rest of the span. -/
theorem span?_cons (h : s.next? c = some t) (rest : List Char) :
    s.span? (c :: rest) = (t.span? rest).map (c :: ·) := by
  rw [span?, h]

/-- A character that stops the search ends the span. -/
theorem span?_cons_of_stops (h : s.next? c = none) (rest : List Char) : s.span? (c :: rest) = some [c] := by
  rw [span?, h]

/-- What the search comes through belongs to the span. -/
theorem span?_append (h : s.run? front = some t) (rest : List Char) :
    s.span? (front ++ rest) = (t.span? rest).map (front ++ ·) := by
  induction front generalizing s with
  | nil =>
    obtain rfl := Option.some.inj h
    simp
  | cons c front ih =>
    obtain ⟨u, hnext, hrun⟩ := Option.bind_eq_some_iff.mp h
    rw [List.cons_append, span?_cons hnext, ih hrun, Option.map_map]
    rfl

/-- Where the search does not come through it stops inside. -/
theorem exists_span?_of_run?_eq_none (h : s.run? front = none) (rest : List Char) :
    ∃ span, s.span? (front ++ rest) = some span ∧ span.length ≤ front.length := by
  induction front generalizing s with
  | nil => cases h
  | cons c front ih =>
    rw [List.cons_append]
    rcases hnext : s.next? c with _ | t
    · exact ⟨[c], span?_cons_of_stops hnext _, by simp⟩
    · rw [run?_cons hnext] at h
      obtain ⟨span, hspan, hle⟩ := ih h
      exact ⟨c :: span, by rw [span?_cons hnext, hspan]; rfl, Nat.succ_le_succ hle⟩

/-- A span is not empty. -/
theorem span_ne_nil {text span : List Char} (h : s.span? text = some span) : span ≠ [] := by
  rintro rfl
  rcases text with _ | ⟨c, rest⟩
  · cases h
  · rcases hnext : s.next? c with _ | t
    · rw [span?_cons_of_stops hnext] at h
      cases h
    · rw [span?_cons hnext] at h
      simp at h

/-- A backslash takes the next character along. -/
theorem next?_backslash (e : Enclosure) (dollar : Bool) :
    next? { enclosure := e, dollar } '\\' = some { enclosure := e, escaped := true } := rfl

/-- A dollar sign matters in front of the brace that makes it a substitution, and nowhere else. -/
theorem next?_eq_of_not_opensSubstitution {e : Enclosure} (h : e.opensSubstitution '$' c = false) (dollar : Bool) :
    next? { enclosure := e, dollar } c = next? { enclosure := e } c := by
  simp [next?, h]

/-- A dollar sign matters only if a substitution is opened behind it. -/
theorem span?_eq_of_not_opensSubstitution {e : Enclosure} (h : e.opensSubstitution '$' c = false) (dollar : Bool)
    (rest : List Char) : span? { enclosure := e, dollar } (c :: rest) = span? { enclosure := e } (c :: rest) := by
  rw [span?, span?, next?_eq_of_not_opensSubstitution h]

/-- The brace that closes the span stops the search. -/
theorem next?_of_closes {e : Enclosure} (h : e.closes c = true) : next? { enclosure := e } c = none := by
  have hbackslash : (c == '\\') = false := by
    rw [beq_eq_false_iff_ne]
    rintro rfl
    cases e <;> simp [Enclosure.closes] at h
  simp [next?, hbackslash, h]

/-- Any other character but a backslash does not stop it. -/
theorem next?_of_not_closes {e : Enclosure} (hbackslash : c ≠ '\\') (h : e.closes c = false) :
    next? { enclosure := e } c = some { enclosure := e.next c, dollar := c == '$' } := by
  simp [next?, hbackslash, h]

end Scan

/-- A dollar sign does not change whether a substitution opens behind it. -/
theorem Enclosure.opensSubstitution_next_dollar (e : Enclosure) (d : Char) :
    (e.next '$').opensSubstitution '$' d = e.opensSubstitution '$' d := by
  rcases e with depth | ⟨quote, depth⟩ | ⟨substitutions, depth⟩
  · rfl
  · rw [next]
    split <;> rfl
  · rfl

/-- The search for the end of a span goes character by character. -/
theorem spanBraces?_eq_span? (e : Enclosure) (text : List Char) :
    spanBraces? e text = Scan.span? { enclosure := e } text := by
  fun_induction spanBraces? e text with
  | case1 => rfl
  | case2 e c hcloses => rw [Scan.span?_cons_of_stops (Scan.next?_of_closes hcloses)]
  | case3 e c hopen =>
    -- without a character behind it a backslash is taken, and so is what closes nothing
    have hnext : ∃ t, Scan.next? { enclosure := e } c = some t := by
      by_cases hbackslash : c = '\\'
      · exact ⟨_, hbackslash ▸ Scan.next?_backslash e false⟩
      · exact ⟨_, Scan.next?_of_not_closes hbackslash (Bool.eq_false_iff.mpr hopen)⟩
    obtain ⟨t, hnext⟩ := hnext
    rw [Scan.span?_cons hnext]
    rfl
  | case4 e c d rest hbackslash ih =>
    obtain rfl := eq_of_beq hbackslash
    have hescaped : Scan.next? { enclosure := e, escaped := true } d = some { enclosure := e } := rfl
    rw [Scan.span?_cons (Scan.next?_backslash e false), Scan.span?_cons hescaped, ih, Option.map_map]
    rfl
  | case5 e c d rest hbackslash hopens ih =>
    rcases e with depth | ⟨quote, depth⟩ | ⟨substitutions, depth⟩
    · cases hopens
    · cases hopens
    · obtain ⟨hdollar, hbrace⟩ := Bool.and_eq_true_iff.mp hopens
      obtain rfl := eq_of_beq hdollar
      obtain rfl := eq_of_beq hbrace
      rw [Scan.span?_cons (Scan.next?_of_not_closes (by decide) rfl), Scan.span?_cons rfl, ih, Option.map_map]
      rfl
  | case6 e c d rest hbackslash hopens hcloses => rw [Scan.span?_cons_of_stops (Scan.next?_of_closes hcloses)]
  | case7 e c d rest hbackslash hopens hcloses ih =>
    rw [ih, Scan.span?_cons (Scan.next?_of_not_closes (by simpa using hbackslash) (Bool.eq_false_iff.mpr hcloses))]
    by_cases hdollar : c = '$'
    · subst hdollar
      -- a dollar sign that opens no substitution leaves the enclosure as it is
      have hopens' : (e.next '$').opensSubstitution '$' d = false := by
        rw [e.opensSubstitution_next_dollar]
        exact Bool.eq_false_iff.mpr hopens
      rw [beq_self_eq_true, Scan.span?_eq_of_not_opensSubstitution hopens' true]
    · rw [beq_eq_false_iff_ne.mpr hdollar]

/-! ## Where the search stops -/

/-- The search behind the first brace. -/
def Scan.inside : Scan := { enclosure := .braces 1 }

/-- The end of a brace is where the span inside ends. -/
theorem braceEnd?_eq (text : List Char) :
    braceEnd? ('\x7b' :: text) = (Scan.inside.span? text).map fun span => span.length + 1 := by
  have hnext : Scan.next? { enclosure := .braces 0 } '\x7b' = some Scan.inside := rfl
  rw [braceEnd?, spanBraces?_eq_span?, Scan.span?_cons hnext, Option.map_map]
  rfl

/-- A closing brace stops the search where it has come to the last open brace. -/
theorem Scan.next?_closing_eq_none_iff {s : Scan} :
    s.next? '\x7d' = none ↔ s.enclosure = .braces 1 ∧ s.escaped = false := by
  obtain ⟨e, escaped, dollar⟩ := s
  have hopens : e.opensSubstitution '$' '\x7d' = false := by cases e <;> rfl
  have hcloses : e.closes '\x7d' = true ↔ e = .braces 1 := by cases e <;> simp [Enclosure.closes]
  cases escaped <;> simp [next?, hopens, hcloses]

/-- **Where the search stops.** It stops at the brace behind a text exactly if it comes through the text and stands
between the braces of the front there, with no backslash before the brace. What follows the brace plays no part. -/
theorem braceEnd?_eq_iff (text rest : List Char) :
    braceEnd? ('\x7b' :: (text ++ '\x7d' :: rest)) = some (text.length + 2) ↔
      ∃ s, Scan.inside.run? text = some s ∧ s.enclosure = .braces 1 ∧ s.escaped = false := by
  rw [braceEnd?_eq]
  rcases hrun : Scan.inside.run? text with _ | s
  · obtain ⟨span, hspan, hle⟩ := Scan.exists_span?_of_run?_eq_none hrun ('\x7d' :: rest)
    rw [hspan]
    refine iff_of_false (fun h => ?_) nofun
    have hlength : span.length + 1 = text.length + 2 := Option.some.inj h
    omega
  · have hstops : s.next? '\x7d' = none ↔
        ∃ s', some s = some s' ∧ s'.enclosure = .braces 1 ∧ s'.escaped = false := by
      simp [Scan.next?_closing_eq_none_iff]
    rw [Scan.span?_append hrun, ← hstops]
    rcases hnext : s.next? '\x7d' with _ | t
    · simp [Scan.span?_cons_of_stops hnext]
    · rw [Scan.span?_cons hnext]
      rcases hspan : t.span? rest with _ | more
      · simp
      · have hlonger := List.length_pos_iff.mpr (Scan.span_ne_nil hspan)
        refine iff_of_false (fun h => ?_) nofun
        have hlength : (text ++ '\x7d' :: more).length + 1 = text.length + 2 := Option.some.inj h
        rw [List.length_append, List.length_cons] at hlength
        omega

/-! ## Expressions -/

/-- What a piece of an expression stands in: code, in which braces may stand or not, a string of such code, or the text
of a template literal. -/
inductive Standing where
  | code (braces : Bool)
  | string (quote : Char) (braces : Bool)
  | template

/-- A character that stands for itself. -/
def Standing.Plain : Standing → Char → Prop
  | .string quote braces, c => c ≠ quote ∧ c ≠ '\\' ∧ (braces = false → c ≠ '\x7b' ∧ c ≠ '\x7d')
  | _, c => c ∉ ['\x7b', '\x7d', '\'', '"', '\x60', '\\']

/-- The texts of expressions, with strings, braces and template literals inside each other. In the substitutions of
template literals braces may stand in turn if `deep` says so. -/
inductive Nested (deep : Bool) : Standing → List Char → Prop
  | nil {standing : Standing} : Nested deep standing []
  | plain {standing : Standing} {c : Char} {rest : List Char} (plain : standing.Plain c)
    (after : Nested deep standing rest) : Nested deep standing (c :: rest)
  | escape {standing : Standing} (c : Char) {rest : List Char} (after : Nested deep standing rest) :
    Nested deep standing ('\\' :: c :: rest)
  | string {braces : Bool} {quote : Char} {body rest : List Char} (isQuote : quote = '\'' ∨ quote = '"')
    (inside : Nested deep (.string quote braces) body) (after : Nested deep (.code braces) rest) :
    Nested deep (.code braces) (quote :: (body ++ quote :: rest))
  | braces {body rest : List Char} (inside : Nested deep (.code true) body) (after : Nested deep (.code true) rest) :
    Nested deep (.code true) ('\x7b' :: (body ++ '\x7d' :: rest))
  | template {braces : Bool} {body rest : List Char} (inside : Nested deep .template body)
    (after : Nested deep (.code braces) rest) : Nested deep (.code braces) ('\x60' :: (body ++ '\x60' :: rest))
  | substitution {body rest : List Char} (inside : Nested deep (.code deep) body) (after : Nested deep .template rest) :
    Nested deep .template ('$' :: '\x7b' :: (body ++ '\x7d' :: rest))

namespace Enclosure

/-- The search comes through a text from one enclosure to another. -/
def LeadsTo (e e' : Enclosure) (text : List Char) : Prop :=
  ∀ dollar, ∃ dollar', Scan.run? { enclosure := e, dollar } text = some { enclosure := e', dollar := dollar' }

variable {e e' e'' : Enclosure} {c d : Char} {front body rest : List Char}

theorem LeadsTo.nil (e : Enclosure) : e.LeadsTo e [] := fun dollar => ⟨dollar, rfl⟩

/-- A text leads where its two parts lead one after the other. -/
theorem LeadsTo.append (h : e.LeadsTo e' front) (h' : e'.LeadsTo e'' rest) : e.LeadsTo e'' (front ++ rest) := by
  intro dollar
  obtain ⟨dollar', hfront⟩ := h dollar
  rw [Scan.run?_append hfront]
  exact h' dollar'

/-- Something between two characters, and what follows. -/
theorem LeadsTo.enclosed (opens : e.LeadsTo e' [c]) (inside : e'.LeadsTo e' body) (closes : e'.LeadsTo e [d])
    (after : e.LeadsTo e rest) : e.LeadsTo e (c :: (body ++ d :: rest)) :=
  opens.append (inside.append (closes.append after))

/-- An escaped character changes nothing. -/
theorem LeadsTo.escape (e : Enclosure) (c : Char) : e.LeadsTo e ['\\', c] := fun _ => ⟨false, rfl⟩

/-- A character that opens and closes nothing leads to the next enclosure. -/
theorem leadsTo_next (hbackslash : c ≠ '\\') (hopens : e.opensSubstitution '$' c = false)
    (hcloses : e.closes c = false) : e.LeadsTo (e.next c) [c] := by
  intro dollar
  refine ⟨c == '$', Scan.run?_cons ?_ []⟩
  rw [Scan.next?_eq_of_not_opensSubstitution hopens, Scan.next?_of_not_closes hbackslash hcloses]

/-- A dollar sign with a brace leads into a substitution. -/
theorem leadsTo_deeper (substitutions depth : Nat) :
    (literal substitutions depth).LeadsTo (literal (substitutions + 1) depth) ['$', '\x7b'] := by
  intro dollar
  cases dollar <;> exact ⟨false, rfl⟩

/-- What the search takes a piece to stand in. Inside a substitution it stays in the template literal, strings
included. -/
inductive Shows : Enclosure → Standing → Prop
  | code (depth : Nat) : Shows (.braces (depth + 1)) (.code true)
  | string (quote : Char) (depth : Nat) : Shows (.quoted quote (depth + 1)) (.string quote true)
  | template (substitutions depth : Nat) : Shows (.literal substitutions (depth + 1)) .template
  | codeInside (substitutions depth : Nat) : Shows (.literal (substitutions + 1) (depth + 1)) (.code false)
  | stringInside (quote : Char) (substitutions depth : Nat) :
    Shows (.literal (substitutions + 1) (depth + 1)) (.string quote false)

/-- A plain character changes nothing. -/
theorem Shows.leadsTo_plain {standing : Standing} (h : e.Shows standing) (plain : standing.Plain c) :
    e.LeadsTo e [c] := by
  have hstays : c ≠ '\\' ∧ e.opensSubstitution '$' c = false ∧ e.closes c = false ∧ e.next c = e := by
    cases h with
    | stringInside quote substitutions depth =>
      obtain ⟨-, hbackslash, hbraces⟩ := plain
      simp [opensSubstitution, closes, next, hbackslash, hbraces]
    | string quote depth =>
      obtain ⟨hquote, hbackslash, -⟩ := plain
      simp [opensSubstitution, closes, next, hbackslash, hquote]
    | _ =>
      simp only [Standing.Plain, List.mem_cons, List.not_mem_nil, or_false, not_or] at plain
      simp [opensSubstitution, closes, next, plain]
  obtain ⟨hbackslash, hopens, hcloses, hnext⟩ := hstays
  have hchar := leadsTo_next hbackslash hopens hcloses
  rwa [hnext] at hchar

end Enclosure

open Enclosure (LeadsTo Shows leadsTo_next leadsTo_deeper)

/-- The search comes through a text in which no braces stand inside substitutions but those of substitutions. -/
theorem Nested.leadsTo {standing : Standing} {text : List Char} (h : Nested false standing text) {e : Enclosure}
    (seen : e.Shows standing) : e.LeadsTo e text := by
  induction h generalizing e with
  | nil => exact .nil e
  | plain plain _ ih => exact (seen.leadsTo_plain plain).append (ih seen)
  | escape c _ ih => exact (LeadsTo.escape e c).append (ih seen)
  | @string braces quote body rest isQuote _ _ ihInside ihAfter =>
    cases seen with
    | code depth =>
      -- a quoted text in code is entered and left, one inside a substitution is passed over as literal text
      have hquote : LeadsTo (.braces (depth + 1)) (.quoted quote (depth + 1)) [quote] ∧
          LeadsTo (.quoted quote (depth + 1)) (.braces (depth + 1)) [quote] := by
        rcases isQuote with rfl | rfl <;>
          exact ⟨leadsTo_next (by decide) rfl rfl, leadsTo_next (by decide) rfl rfl⟩
      exact hquote.1.enclosed (ihInside (.string quote depth)) hquote.2 (ihAfter (.code depth))
    | codeInside substitutions depth =>
      let e : Enclosure := .literal (substitutions + 1) (depth + 1)
      have hstays : e.LeadsTo e [quote] := by
        rcases isQuote with rfl | rfl <;> exact leadsTo_next (by decide) rfl rfl
      exact hstays.enclosed (ihInside (.stringInside quote substitutions depth)) hstays (ihAfter (.codeInside ..))
  | braces _ _ ihInside ihAfter =>
    cases seen with | code depth =>
    have hopens : LeadsTo (.braces (depth + 1)) (.braces (depth + 2)) ['\x7b'] := leadsTo_next (by decide) rfl rfl
    have hcloses : LeadsTo (.braces (depth + 2)) (.braces (depth + 1)) ['\x7d'] := leadsTo_next (by decide) rfl rfl
    exact hopens.enclosed (ihInside (.code (depth + 1))) hcloses (ihAfter (.code depth))
  | template _ _ ihInside ihAfter =>
    cases seen with
    -- likewise a template literal
    | code depth =>
      have hopens : LeadsTo (.braces (depth + 1)) (.literal 0 (depth + 1)) ['\x60'] := leadsTo_next (by decide) rfl rfl
      have hcloses : LeadsTo (.literal 0 (depth + 1)) (.braces (depth + 1)) ['\x60'] := leadsTo_next (by decide) rfl rfl
      exact hopens.enclosed (ihInside (.template 0 depth)) hcloses (ihAfter (.code depth))
    | codeInside substitutions depth =>
      let e : Enclosure := .literal (substitutions + 1) (depth + 1)
      have hstays : e.LeadsTo e ['\x60'] := leadsTo_next (by decide) rfl rfl
      exact hstays.enclosed (ihInside (.template (substitutions + 1) depth)) hstays (ihAfter (.codeInside ..))
  | substitution _ _ ihInside ihAfter =>
    cases seen with | template substitutions depth =>
    have hcloses : LeadsTo (.literal (substitutions + 1) (depth + 1)) (.literal substitutions (depth + 1)) ['\x7d'] :=
      leadsTo_next (by decide) rfl rfl
    have hinside := (ihInside (.codeInside substitutions depth)).append (hcloses.append (ihAfter (.template ..)))
    exact (leadsTo_deeper substitutions (depth + 1)).append hinside

/-- What a piece stands in, with braces allowed. -/
def Standing.withBraces : Standing → Standing
  | .code _ => .code true
  | .string quote _ => .string quote true
  | .template => .template

/-- Braces may be left out where they may stand. -/
theorem Nested.withBraces {standing : Standing} {text : List Char} (h : Nested false standing text) :
    Nested true standing.withBraces text := by
  induction h with
  | nil => exact .nil
  | @plain standing c rest plain _ ih =>
    refine .plain ?_ ih
    rcases standing with braces | ⟨quote, braces⟩ | _
    · exact plain
    · exact ⟨plain.1, plain.2.1, nofun⟩
    · exact plain
  | escape c _ ih => exact .escape c ih
  | string isQuote _ _ ihInside ihAfter => exact .string isQuote ihInside ihAfter
  | braces _ _ ihInside ihAfter => exact .braces ihInside ihAfter
  | template _ _ ihInside ihAfter => exact .template ihInside ihAfter
  | substitution _ _ ihInside ihAfter => exact .substitution ihInside ihAfter

/-- **The matching brace is found where braces keep out of substitutions.** Whatever follows, the search stops at the
brace behind a text exactly if it comes through the text and stands between the braces of the front there. It does for
the texts of expressions in which no braces stand inside substitutions but those of substitutions. -/
theorem matching_brace_found (text rest : List Char) :
    (braceEnd? ('\x7b' :: (text ++ '\x7d' :: rest)) = some (text.length + 2) ↔
        ∃ s, Scan.inside.run? text = some s ∧ s.enclosure = .braces 1 ∧ s.escaped = false) ∧
      (Nested false (.code true) text → Nested true (.code true) text ∧
        braceEnd? ('\x7b' :: (text ++ '\x7d' :: rest)) = some (text.length + 2)) := by
  refine ⟨braceEnd?_eq_iff text rest, fun nested => ⟨nested.withBraces, ?_⟩⟩
  obtain ⟨dollar, hrun⟩ := nested.leadsTo (.code 0) false
  exact (braceEnd?_eq_iff text rest).mpr ⟨_, hrun, rfl, rfl⟩

/-- The braces of a string and of a substitution are passed over. -/
theorem matching_brace_found_behind_braces :
    braceEnd? "\x7b['\x7d', \x60$\x7ba\x7d\x60]\x7d\x7d".toList = some 15 := by
  have hstring : Nested false (.string '\'' true) ['\x7d'] := .plain (by simp [Standing.Plain]) .nil
  have hinside : Nested false .template ['$', '\x7b', 'a', '\x7d'] :=
    .substitution (.plain (by simp [Standing.Plain]) .nil) .nil
  have hbehind : Nested false (.code true) [']'] := .plain (by simp [Standing.Plain]) .nil
  have hitem : Nested false (.code true) [' ', '\x60', '$', '\x7b', 'a', '\x7d', '\x60', ']'] :=
    .plain (by simp [Standing.Plain]) (.template hinside hbehind)
  have htext : Nested false (.code true)
      ['[', '\'', '\x7d', '\'', ',', ' ', '\x60', '$', '\x7b', 'a', '\x7d', '\x60', ']'] :=
    .plain (by simp [Standing.Plain]) (.string (.inl rfl) hstring (.plain (by simp [Standing.Plain]) hitem))
  exact ((matching_brace_found _ ['\x7d']).2 htext).2

/-- A string in a substitution that holds the start of one keeps the search from stopping. -/
theorem braceEnd?_of_quoted_substitution :
    Nested true (.code true) "\x60$\x7b'$\x7b'\x7d\x60".toList ∧
      braceEnd? "\x7b\x60$\x7b'$\x7b'\x7d\x60\x7d".toList = none := by
  refine ⟨?_, by decide⟩
  have hstring : Nested true (.string '\'' true) ['$', '\x7b'] :=
    .plain (by simp [Standing.Plain]) (.plain (by simp [Standing.Plain]) .nil)
  have hcode : Nested true (.code true) "'$\x7b'".toList := .string (.inl rfl) hstring .nil
  have hbody : Nested true .template "$\x7b'$\x7b'\x7d".toList := .substitution hcode .nil
  exact .template hbody .nil

end WidgetTemplates.Template
