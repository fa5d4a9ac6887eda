import Mathlib.Data.List.Infix
import WidgetTemplates.Proofs.Text.Blank
import WidgetTemplates.Proofs.Text.Search
import WidgetTemplates.Template.TagExpansion

/-!
# Writing out self-closing tags

A self-closing tag is found only if neither `<` nor `>` stands in it, and quotes make no difference. So no tag goes over
a `<` (`expandSelfClosing_append_open`), and a text stays as it is exactly if every tag found in it is void
(`expandSelfClosing_eq_self_iff`). A tag with one quoted value is closed by an end tag exactly if the value has neither
of these characters, or happens to end inside a tag of the same name (`quoted_value_expanded_iff`).
-/

namespace WidgetTemplates.Template

/-! ## Self-closing tags -/

/-- The name of a tag: a letter, and letters, digits and hyphens behind it. -/
structure TagName (name : List Char) : Prop where
  head : ∃ first rest, name = first :: rest ∧ first.isAlpha = true
  isTagChar : ∀ c ∈ name, isTagChar c = true

/-- A tag name has no opening bracket. -/
theorem TagName.notMem_open {name : List Char} (h : TagName name) : '<' ∉ name :=
  fun hc => absurd (h.isTagChar '<' hc) (by decide)

/-- Whether elements with this name in their tag are void. -/
def namesVoid (name : List Char) : Bool := isVoid (String.ofList (name.map Char.toLower))

/-- The text is a self-closing tag, with what is inside between its name and its slash. -/
structure SelfClosing (name inside text : List Char) : Prop where
  text_eq : text = '<' :: (name ++ inside ++ ['/', '>'])
  name : TagName name
  setOff : ∀ c ∈ inside.head?, Text.isBlank c = true
  plain : ∀ c ∈ inside, c ≠ '<' ∧ c ≠ '>'

/-- What is inside the start tag when it is written out: its first blank, and no blanks at its end. -/
def insideWritten : List Char → List Char
  | [] => []
  | c :: rest => c :: Text.trimEnd rest

/-- What a self-closing tag is replaced by. -/
def writtenOut (name inside : List Char) : List Char :=
  if namesVoid name then '<' :: (name ++ inside ++ ['/', '>'])
  else '<' :: name ++ insideWritten inside ++ '>' :: '<' :: '/' :: name ++ ['>']

/-- What is written out is what the inside starts with. -/
theorem insideWritten_prefix_inside (inside : List Char) : insideWritten inside <+: inside := by
  rcases inside with _ | ⟨c, rest⟩
  · exact List.prefix_refl []
  · obtain ⟨back, heq, -⟩ := Text.exists_trimEnd rest
    exact List.cons_prefix_cons.mpr ⟨rfl, back, heq.symm⟩

/-- The inside of a tag is that of a self-closing one if it ends in a slash and nothing but a blank follows the name. -/
theorem selfClosingInside?_eq_some_iff {body written : List Char} :
    selfClosingInside? body = some written ↔
      ∃ inside, body = inside ++ ['/'] ∧ (∀ c ∈ inside.head?, Text.isBlank c = true) ∧
        written = insideWritten inside := by
  have hend : ∀ inside, Text.dropEnd? ['/'] body = some inside ↔ body = inside ++ ['/'] :=
    fun _ => Text.dropEnd?_eq_some_iff
  rw [selfClosingInside?]
  constructor
  · intro h
    split at h
    · next hbody => exact ⟨[], (hend []).mp hbody, nofun, (Option.some.inj h).symm⟩
    · next c inside hbody =>
      obtain ⟨hblank, heq⟩ := Option.ite_none_right_eq_some.mp h
      exact ⟨c :: inside, (hend _).mp hbody, by simpa using hblank, (Option.some.inj heq).symm⟩
    · cases h
  · rintro ⟨inside, hbody, setOff, rfl⟩
    rw [(hend inside).mpr hbody]
    rcases inside with _ | ⟨c, inside⟩
    · rfl
    · exact if_pos (setOff c rfl)

/-- A blank is no character of a tag name. -/
theorem isTagChar_eq_false_of_isBlank {c : Char} (h : Text.isBlank c = true) : isTagChar c = false :=
  Text.of_isBlank (p := fun c => isTagChar c = false) (by decide) h

namespace SelfClosing

variable {name inside text : List Char}

/-- A self-closing tag at the front of a text is found. -/
theorem selfClosing?_append (h : SelfClosing name inside text) (rest : List Char) :
    selfClosing? (text ++ rest) = some (text.length, writtenOut name inside) := by
  obtain ⟨first, more, rfl, halpha⟩ := h.name.head
  have hname : (first :: more ++ (inside ++ ['/'] ++ '>' :: rest)).takeWhile isTagChar = first :: more := by
    rcases inside with _ | ⟨c, inside⟩
    · exact Text.takeWhile_append_cons h.name.isTagChar (by decide) _
    · exact Text.takeWhile_append_cons h.name.isTagChar (isTagChar_eq_false_of_isBlank (h.setOff c rfl)) _
  have hbody : (inside ++ ['/'] ++ '>' :: rest).takeWhile (fun c => c != '<' && c != '>') = inside ++ ['/'] := by
    refine Text.takeWhile_append_cons (List.forall_mem_append.mpr ⟨fun c hc => ?_, ?_⟩) (by decide) rest
    · simpa using h.plain c hc
    · exact List.forall_mem_singleton.mpr (by decide)
  have hinside := selfClosingInside?_eq_some_iff.mpr ⟨inside, rfl, h.setOff, rfl⟩
  have hlength : 1 + (first :: more).length + (inside ++ ['/']).length + 1 = text.length := by
    rw [h.text_eq]
    simp
    omega
  have htext : text ++ rest = '<' :: (first :: more ++ (inside ++ ['/'] ++ '>' :: rest)) := by simp [h.text_eq]
  rw [htext, selfClosing?, hname, List.drop_left, hbody, List.drop_left, hinside]
  change (if (!first.isAlpha) = true then none else _) = _
  rw [if_neg (by simp [halpha]), hlength, ← htext]
  dsimp only
  rw [List.take_left, h.text_eq, writtenOut, namesVoid]
  split <;> rfl

end SelfClosing

/-- Nothing but self-closing tags is found. -/
theorem exists_selfClosing {s : List Char} (h : selfClosing? s ≠ none) :
    ∃ name inside text rest, SelfClosing name inside text ∧ s = text ++ rest := by
  have hscan (p : Char → Bool) (s : List Char) : s.takeWhile p ++ s.drop (s.takeWhile p).length = s :=
    List.prefix_iff_eq_append.mp (List.takeWhile_prefix p)
  have hall (p : Char → Bool) (s : List Char) : ∀ c ∈ s.takeWhile p, p c = true :=
    List.all_eq_true.mp List.all_takeWhile
  rw [selfClosing?.eq_def] at h
  split at h
  · next rest =>
    dsimp only at h
    split at h
    · next first more tail written hname hafter hinside =>
      obtain ⟨inside, hbody, setOff, rfl⟩ := selfClosingInside?_eq_some_iff.mp hinside
      -- without a letter at its start the tag would not be found
      have halpha : first.isAlpha = true := by
        by_contra hletter
        exact h (if_pos (by simpa using hletter))
      have hletters := hall isTagChar rest
      have hplain := hall (fun c => c != '<' && c != '>') (rest.drop (rest.takeWhile isTagChar).length)
      have hrest := hscan isTagChar rest
      rw [← hscan (fun c => c != '<' && c != '>') (rest.drop _), hafter, hbody, hname] at hrest
      rw [hname] at hletters
      rw [hbody] at hplain
      refine ⟨first :: more, inside, _, tail, ⟨rfl, ⟨⟨first, more, rfl, halpha⟩, hletters⟩, setOff, ?_⟩, ?_⟩
      · intro c hc
        simpa using hplain c (List.mem_append_left _ hc)
      · simp [← hrest]
    · exact absurd rfl h
  · exact absurd rfl h

/-! ## Expanding a text -/

/-- Characters that are passed over are dropped. -/
theorem substitute_skip (find : List Char → Option (Nat × List Char)) (front rest : List Char) :
    substitute find front.length (front ++ rest) = substitute find 0 rest := by
  induction front with
  | nil => rfl
  | cons c front ih => exact ih

/-- A character that starts no self-closing tag stays. -/
theorem expandSelfClosing_cons {c : Char} {rest : List Char} (h : selfClosing? (c :: rest) = none) :
    expandSelfClosing (c :: rest) = c :: expandSelfClosing rest := by
  rw [expandSelfClosing, substitute, h]
  rfl

namespace SelfClosing

variable {name inside text : List Char}

/-- A self-closing tag is written out, whatever follows. -/
theorem expandSelfClosing_append (h : SelfClosing name inside text) (rest : List Char) :
    expandSelfClosing (text ++ rest) = writtenOut name inside ++ expandSelfClosing rest := by
  have hfind := h.selfClosing?_append rest
  obtain ⟨body, rfl⟩ : ∃ body, text = '<' :: body := ⟨_, h.text_eq⟩
  rw [List.cons_append] at hfind ⊢
  rw [expandSelfClosing, substitute, hfind]
  exact congrArg (writtenOut name inside ++ ·) (substitute_skip selfClosing? body rest)

/-- A self-closing tag has no `<` but the one at its front. -/
theorem exists_body (h : SelfClosing name inside text) : ∃ body, text = '<' :: body ∧ '<' ∉ body := by
  refine ⟨_, h.text_eq, ?_⟩
  rw [List.mem_append, List.mem_append, not_or, not_or]
  exact ⟨⟨h.name.notMem_open, fun hc => (h.plain _ hc).1 rfl⟩, by decide⟩

/-- A self-closing tag has one opening bracket. -/
theorem count_text (h : SelfClosing name inside text) : text.count '<' = 1 := by
  obtain ⟨body, rfl, hbody⟩ := h.exists_body
  rw [List.count_cons_self, List.count_eq_zero.mpr hbody]

/-- Written out, a self-closing tag has two opening brackets, or one if it is void. -/
theorem count_writtenOut (h : SelfClosing name inside text) :
    (writtenOut name inside).count '<' = if namesVoid name then 1 else 2 := by
  have hname : name.count '<' = 0 := List.count_eq_zero.mpr h.name.notMem_open
  have hinside : inside.count '<' = 0 := List.count_eq_zero.mpr fun hc => (h.plain _ hc).1 rfl
  have hwritten : (insideWritten inside).count '<' = 0 :=
    Nat.le_zero.mp (hinside ▸ (insideWritten_prefix_inside inside).sublist.count_le '<')
  rw [writtenOut]
  split <;> simp [hname, hinside, hwritten]

end SelfClosing

/-- A text is expanded from left to right: a character is kept, or a self-closing tag replaced. -/
theorem expanding {P : List Char → Prop} (nil : P [])
    (keep : ∀ c rest, selfClosing? (c :: rest) = none → P rest → P (c :: rest))
    (replace : ∀ name inside text rest, SelfClosing name inside text → P rest → P (text ++ rest))
    (s : List Char) : P s := by
  induction s using Text.induction_behind with
  | step s ih =>
    by_cases hfind : selfClosing? s = none
    · rcases s with _ | ⟨c, rest⟩
      · exact nil
      · exact keep c rest hfind (ih [c] rest nofun rfl)
    · obtain ⟨name, inside, text, rest, h, rfl⟩ := exists_selfClosing hfind
      exact replace name inside text rest h (ih text rest (by rw [h.text_eq]; nofun) rfl)

/-- Every self-closing tag in the text has a void name: nothing is left to write out. -/
def Settled (s : List Char) : Prop :=
  ∀ name inside text, SelfClosing name inside text → text <:+: s → namesVoid name = true

/-- A part of a settled text is settled. -/
theorem Settled.mono {s part : List Char} (h : Settled s) (hin : part <:+: s) : Settled part :=
  fun name inside text tag hpart => h name inside text tag (hpart.trans hin)

/-- A settled text stays as it is. -/
theorem expandSelfClosing_of_settled {s : List Char} (h : Settled s) : expandSelfClosing s = s := by
  induction s using expanding with
  | nil => rfl
  | keep c rest hnone ih =>
    rw [expandSelfClosing_cons hnone, ih (h.mono (List.suffix_cons c rest).isInfix)]
  | replace name inside text rest tag ih =>
    have hvoid := h name inside text tag (List.prefix_append text rest).isInfix
    rw [tag.expandSelfClosing_append, ih (h.mono (List.suffix_append text rest).isInfix), writtenOut, if_pos hvoid,
      tag.text_eq]

/-- A tag that is written out adds a `<`, and nothing takes one away. -/
theorem count_le_count_expandSelfClosing (s : List Char) : s.count '<' ≤ (expandSelfClosing s).count '<' := by
  induction s using expanding with
  | nil => rfl
  | keep c rest hnone ih =>
    rw [expandSelfClosing_cons hnone, List.count_cons, List.count_cons]
    omega
  | replace name inside text rest tag ih =>
    rw [tag.expandSelfClosing_append, List.count_append, List.count_append, tag.count_text, tag.count_writtenOut]
    split <;> omega

/-- Self-closing tags at the front of one text are written out alike. -/
theorem SelfClosing.namesVoid_eq {name inside text name' inside' text' s : List Char}
    (h : SelfClosing name inside text) (h' : SelfClosing name' inside' text') (hfront : text <+: s)
    (hfront' : text' <+: s) : namesVoid name = namesVoid name' := by
  obtain ⟨rest, rfl⟩ := hfront
  obtain ⟨rest', heq⟩ := hfront'
  have hfound := h.selfClosing?_append rest
  rw [← heq, h'.selfClosing?_append rest', Option.some_inj, Prod.mk.injEq] at hfound
  have hcount := congrArg (List.count '<') hfound.2
  rw [h.count_writtenOut, h'.count_writtenOut] at hcount
  cases hvoid : namesVoid name <;> cases hvoid' : namesVoid name' <;> simp_all

/-- A text in which no tag is written out is settled. -/
theorem settled_of_count_eq {s : List Char} (h : (expandSelfClosing s).count '<' = s.count '<') : Settled s := by
  induction s using expanding with
  | nil =>
    intro name inside text tag hin
    have hnil := List.infix_nil.mp hin
    rw [tag.text_eq] at hnil
    cases hnil
  | keep c rest hnone ih =>
    rw [expandSelfClosing_cons hnone, List.count_cons, List.count_cons, Nat.add_right_cancel_iff] at h
    intro name inside text tag hin
    -- a tag in the text is in front, where none is found, or further on
    rcases List.infix_cons_iff.mp hin with ⟨behind, hstart⟩ | hin
    · rw [← hstart, tag.selfClosing?_append] at hnone
      cases hnone
    · exact ih h name inside text tag hin
  | replace name inside text rest tag ih =>
    have hle := count_le_count_expandSelfClosing rest
    rw [tag.expandSelfClosing_append, List.count_append, List.count_append, tag.count_text, tag.count_writtenOut] at h
    -- writing the tag out would add an opening bracket
    have hvoid : namesVoid name = true := by
      by_contra hopen
      rw [if_neg hopen] at h
      omega
    rw [if_pos hvoid] at h
    intro name' inside' text' tag' hin
    obtain ⟨body, rfl, hbody⟩ := tag.exists_body
    obtain ⟨body', rfl, -⟩ := tag'.exists_body
    rcases List.infix_cons_iff.mp hin with hstart | hin
    · rw [← hvoid]
      exact tag'.namesVoid_eq tag hstart (List.prefix_append ('<' :: body) rest)
    · exact ih (by omega) name' inside' _ tag' (Text.infix_of_infix_append hbody hin)

/-- A text is settled exactly if no bracket is added to it. -/
theorem settled_iff_count {s : List Char} : Settled s ↔ (expandSelfClosing s).count '<' = s.count '<' :=
  ⟨fun h => by rw [expandSelfClosing_of_settled h], settled_of_count_eq⟩

/-- A text is left as it is exactly if it is settled. -/
theorem expandSelfClosing_eq_self_iff {s : List Char} : expandSelfClosing s = s ↔ Settled s :=
  ⟨fun h => settled_of_count_eq (by rw [h]), expandSelfClosing_of_settled⟩

/-- No tag goes over a `<`: what stands in front of it is expanded alone. -/
theorem expandSelfClosing_append_open (front rest : List Char) :
    expandSelfClosing (front ++ '<' :: rest) = expandSelfClosing front ++ expandSelfClosing ('<' :: rest) := by
  induction front using expanding with
  | nil => rfl
  | keep c front hnone ih =>
    have hnone' : selfClosing? (c :: front ++ '<' :: rest) = none := by
      by_contra hfind
      obtain ⟨name, inside, text, behind, tag, heq⟩ := exists_selfClosing hfind
      rcases List.append_eq_append_iff.mp heq with ⟨common, htext, hcommon⟩ | ⟨left, hfront, -⟩
      · rcases common with _ | ⟨d, common⟩
        · rw [List.append_nil] at htext
          rw [← htext, ← List.append_nil text, tag.selfClosing?_append] at hnone
          cases hnone
        · obtain ⟨body, rfl, hbody⟩ := tag.exists_body
          refine hbody ?_
          rw [(List.cons.inj htext).2, ← (List.cons.inj hcommon).1]
          simp
      · rw [hfront, tag.selfClosing?_append] at hnone
        cases hnone
    rw [List.cons_append] at hnone' ⊢
    rw [expandSelfClosing_cons hnone', expandSelfClosing_cons hnone, ih, List.cons_append]
  | replace name inside text front tag ih =>
    rw [List.append_assoc, tag.expandSelfClosing_append, tag.expandSelfClosing_append, ih, List.append_assoc]

/-- A text is settled exactly if it is so in front of an opening bracket and from there on. -/
theorem settled_append_open {front rest : List Char} :
    Settled (front ++ '<' :: rest) ↔ Settled front ∧ Settled ('<' :: rest) := by
  have hfront := count_le_count_expandSelfClosing front
  have hrest := count_le_count_expandSelfClosing ('<' :: rest)
  rw [settled_iff_count, settled_iff_count, settled_iff_count, expandSelfClosing_append_open, List.count_append,
    List.count_append]
  omega

/-- Only what ends in `/>` can be a self-closing tag. -/
theorem settled_concat {s : List Char} {c : Char} (h : ¬ ['/', '>'] <:+ s ++ [c]) :
    Settled (s ++ [c]) ↔ Settled s := by
  constructor
  · exact fun settled => settled.mono (List.prefix_append s [c]).isInfix
  · intro settled name inside text tag hin
    rcases List.infix_concat_iff.mp hin with hend | hin
    · refine absurd (List.IsSuffix.trans ?_ hend) h
      rw [tag.text_eq]
      exact ⟨'<' :: (name ++ inside), rfl⟩
    · exact settled name inside text tag hin

/-- A text without brackets is settled. -/
theorem settled_of_notMem {s : List Char} (h : '<' ∉ s ∨ '>' ∉ s) : Settled s := by
  intro name inside text tag hin
  have hsub := hin.subset
  rw [tag.text_eq] at hsub
  rcases h with h | h
  · exact absurd (hsub List.mem_cons_self) h
  · exact absurd (hsub (by simp)) h

/-! ## A quoted value -/

/-- A start tag up to the end of its first value. -/
def tagUpTo (name value : List Char) : List Char := '<' :: (name ++ " a=\"".toList ++ value)

/-- The tag with this value, self-closing. -/
def selfClosed (name value : List Char) : List Char := tagUpTo name value ++ "\"/>".toList

/-- The tag with this value, with an end tag. -/
def closed (name value : List Char) : List Char := tagUpTo name value ++ '"' :: '>' :: '<' :: '/' :: (name ++ ['>'])

/-- The text ends inside a start tag of this name, and what is in front of that tag is settled. -/
def EndsInside (name s : List Char) : Prop :=
  ∃ front blank rest, s = front ++ '<' :: (name ++ blank :: rest) ∧ Text.isBlank blank = true ∧
    (∀ c ∈ rest, c ≠ '<' ∧ c ≠ '>') ∧ Settled front

variable {name : List Char}

/-- A quote at the end stays. -/
theorem insideWritten_quote (blank : Char) (rest : List Char) :
    insideWritten (blank :: rest ++ ['"']) = blank :: rest ++ ['"'] := by
  have hend : Text.trimEnd (rest ++ ['"']) = rest ++ ['"'] := Text.trimEnd_eq_self (by simp; decide)
  rw [List.cons_append, insideWritten, hend]

/-- A tag that ends inside its quotes is written out behind them. -/
theorem EndsInside.expand {s : List Char} (tag : TagName name) (nonvoid : namesVoid name = false)
    (h : EndsInside name s) :
    expandSelfClosing (s ++ ['"', '/', '>']) = s ++ '"' :: '>' :: '<' :: '/' :: (name ++ ['>']) := by
  obtain ⟨front, blank, rest, rfl, hblank, hplain, settled⟩ := h
  have hquote :
      SelfClosing name (blank :: rest ++ ['"']) ('<' :: (name ++ (blank :: rest ++ ['"']) ++ ['/', '>'])) := by
    refine ⟨rfl, tag, by simpa using hblank, ?_⟩
    rw [List.forall_mem_append, List.forall_mem_cons]
    exact ⟨⟨Text.of_isBlank (p := fun c => c ≠ '<' ∧ c ≠ '>') (by decide) hblank, hplain⟩,
      List.forall_mem_singleton.mpr (by decide)⟩
  have hwritten := hquote.expandSelfClosing_append []
  rw [List.append_nil, writtenOut, if_neg (by simp [nonvoid]), insideWritten_quote] at hwritten
  have htext : front ++ '<' :: (name ++ blank :: rest) ++ ['"', '/', '>'] =
      front ++ '<' :: (name ++ (blank :: rest ++ ['"']) ++ ['/', '>']) := by simp
  rw [htext, expandSelfClosing_append_open, expandSelfClosing_of_settled settled, hwritten]
  simp [expandSelfClosing, substitute]

/-- What is inside a tag that ends in a quote has a blank in front. -/
theorem SelfClosing.exists_of_quote {inside text last : List Char} (h : SelfClosing name inside text)
    (heq : last ++ ['"'] = name ++ inside) :
    ∃ blank rest, inside = blank :: rest ++ ['"'] ∧ last = name ++ blank :: rest ∧ Text.isBlank blank = true := by
  rcases List.eq_nil_or_concat' inside with rfl | ⟨init, c, rfl⟩
  · have hquote := h.name.isTagChar '"' (by rw [← List.append_nil name, ← heq]; simp)
    exact absurd hquote (by decide)
  · rw [← List.append_assoc] at heq
    obtain ⟨rfl, hc⟩ := List.append_inj' heq rfl
    obtain rfl : '"' = c := (List.cons.inj hc).1
    rcases init with _ | ⟨blank, rest⟩
    · exact absurd (h.setOff '"' rfl) (by decide)
    · exact ⟨blank, rest, rfl, rfl, h.setOff blank rfl⟩

/-- What stands behind a self-closing tag in a text that ends in `/>` ends in `/>` too. -/
theorem slash_isSuffix_of_append_eq {front inner rest : List Char}
    (heq : front ++ ['/', '>'] = inner ++ ['/', '>'] ++ rest) (some_rest : rest ≠ []) : ['/', '>'] <:+ rest := by
  rcases List.suffix_or_suffix_of_suffix ⟨front, rfl⟩ ⟨_, heq.symm⟩ with hin | hin
  · exact hin
  · rcases List.suffix_cons_iff.mp hin with rfl | hin
    · exact List.suffix_rfl
    · rcases List.suffix_cons_iff.mp hin with rfl | hin
      · have hend : front ++ ['/', '>'] = inner ++ ['/'] ++ ['>', '>'] := by simpa using heq
        cases (List.append_inj' hend rfl).2
      · exact absurd (List.suffix_nil.mp hin) some_rest

/-- The text from the last `<` on: if it is not a self-closing tag to the end, the slash stays. -/
theorem expandSelfClosing_last {last : List Char} (h : '<' ∉ last) :
    ['/', '>'] <:+ expandSelfClosing ('<' :: last ++ ['"', '/', '>']) ∨
      ∃ name blank rest, TagName name ∧ last = name ++ blank :: rest ∧ Text.isBlank blank = true ∧
        (∀ c ∈ rest, c ≠ '<' ∧ c ≠ '>') ∧
        expandSelfClosing ('<' :: last ++ ['"', '/', '>']) =
          '<' :: last ++ '"' :: '>' :: '<' :: '/' :: (name ++ ['>']) := by
  have hbehind : '<' ∉ last ++ ['"', '/', '>'] := by simpa using h
  by_cases hfind : selfClosing? ('<' :: last ++ ['"', '/', '>']) = none
  · left
    rw [List.cons_append] at hfind ⊢
    rw [expandSelfClosing_cons hfind, expandSelfClosing_of_settled (settled_of_notMem (.inl hbehind))]
    exact ⟨'<' :: last ++ ['"'], by simp⟩
  · obtain ⟨name, inside, text, rest, tag, heq⟩ := exists_selfClosing hfind
    obtain ⟨body, rfl, -⟩ := tag.exists_body
    have hrest : Settled rest := by
      refine settled_of_notMem (.inl fun hc => hbehind ?_)
      rw [show last ++ ['"', '/', '>'] = body ++ rest from (List.cons.inj heq).2]
      exact List.mem_append_right body hc
    have hexpand := tag.expandSelfClosing_append rest
    rw [← heq, expandSelfClosing_of_settled hrest] at hexpand
    have hend : '<' :: (last ++ ['"']) ++ ['/', '>'] = '<' :: (name ++ inside) ++ ['/', '>'] ++ rest := by
      rw [tag.text_eq] at heq
      simpa using heq
    -- the slash at the end is the one of the tag, or it stands behind the tag
    by_cases hnil : rest = []
    · subst hnil
      rw [List.append_nil] at hend hexpand
      have hinside : last ++ ['"'] = name ++ inside := (List.cons.inj (List.append_cancel_right hend)).2
      cases hvoid : namesVoid name
      · right
        obtain ⟨blank, rest, rfl, rfl, hblank⟩ := tag.exists_of_quote hinside
        refine ⟨name, blank, rest, tag.name, rfl, hblank, fun c hc => tag.plain c (by simp [hc]), ?_⟩
        rw [hexpand, writtenOut, if_neg (by simp [hvoid]), insideWritten_quote]
        simp
      · left
        rw [hexpand, writtenOut, if_pos hvoid]
        exact ⟨'<' :: (name ++ inside), rfl⟩
    · left
      rw [hexpand]
      exact (slash_isSuffix_of_append_eq hend hnil).trans (List.suffix_append _ rest)

/-- An end tag does not end in `/>`. -/
theorem not_isSuffix_append_tagName (tag : TagName name) (s : List Char) :
    ¬ ['/', '>'] <:+ s ++ (name ++ ['>']) := by
  rintro ⟨front, heq⟩
  obtain ⟨first, more, hname, -⟩ := tag.head
  rcases List.eq_nil_or_concat' name with hnil | ⟨init, c, rfl⟩
  · rw [hnil] at hname
    cases hname
  · have hend : front ++ ['/', '>'] = s ++ init ++ [c, '>'] := by simpa using heq
    have hc := (List.cons.inj (List.append_inj' hend rfl).2).1
    have hslash := tag.isTagChar c (by simp)
    rw [← hc] at hslash
    cases hslash

/-- A tag that is written out behind its quotes ends inside them. -/
theorem endsInside_of_expand {s : List Char} (tag : TagName name)
    (h : expandSelfClosing (s ++ ['"', '/', '>']) = s ++ '"' :: '>' :: '<' :: '/' :: (name ++ ['>'])) :
    EndsInside name s := by
  by_cases hopen : '<' ∈ s
  -- the last opening bracket of the text: what is found behind it is the tag that ends the text
  · obtain ⟨behind, front, hreverse, hlast⟩ := List.eq_append_cons_of_mem (List.mem_reverse.mpr hopen)
    obtain rfl : s = front.reverse ++ '<' :: behind.reverse := by simpa using congrArg List.reverse hreverse
    rw [List.append_assoc, List.cons_append, expandSelfClosing_append_open] at h
    rcases expandSelfClosing_last (fun hc => hlast (List.mem_reverse.mp hc)) with
      hslash | ⟨name', blank, rest, tag', heq, hblank, hplain, hexpand⟩
    · have hend := hslash.trans (List.suffix_append (expandSelfClosing front.reverse) _)
      rw [List.cons_append, h] at hend
      refine absurd hend ?_
      have hnot := not_isSuffix_append_tagName tag (front.reverse ++ '<' :: behind.reverse ++ ['"', '>', '<', '/'])
      simpa using hnot
    · rw [List.cons_append] at hexpand
      rw [hexpand, heq] at h
      -- both sides have the same opening brackets, so no tag in front of this one is written out
      have hcount := congrArg (List.count '<') h
      have hname : name.count '<' = 0 := List.count_eq_zero.mpr tag.notMem_open
      have hname' : name'.count '<' = 0 := List.count_eq_zero.mpr tag'.notMem_open
      have settled : Settled front.reverse :=
        settled_of_count_eq (by simpa [List.count_cons, hname, hname'] using hcount)
      rw [expandSelfClosing_of_settled settled] at h
      obtain rfl : name' = name := by simpa using h
      exact ⟨front.reverse, blank, rest, by rw [heq], hblank, hplain, settled⟩
  · rw [expandSelfClosing_of_settled (settled_of_notMem (.inl (by simpa using hopen)))] at h
    cases List.append_cancel_left h

/-- A text is closed at its end exactly if it ends inside a tag of this name. -/
theorem expandSelfClosing_eq_iff {s : List Char} (tag : TagName name) (nonvoid : namesVoid name = false) :
    expandSelfClosing (s ++ ['"', '/', '>']) = s ++ '"' :: '>' :: '<' :: '/' :: (name ++ ['>']) ↔ EndsInside name s :=
  ⟨endsInside_of_expand tag, fun h => h.expand tag nonvoid⟩

/-- The end of the start tag and the end tag are settled. -/
theorem settled_closed_iff {value : List Char} (tag : TagName name) :
    Settled (closed name value) ↔ Settled (tagUpTo name value) := by
  have hend : Settled ('<' :: '/' :: (name ++ ['>'])) := by
    intro name' inside text tag' hin
    rcases List.infix_cons_iff.mp hin with ⟨rest, heq⟩ | hin
    · obtain ⟨first, more, rfl, halpha⟩ := tag'.name.head
      rw [tag'.text_eq] at heq
      obtain rfl : first = '/' := (List.cons.inj (List.cons.inj heq).2).1
      cases halpha
    · refine settled_of_notMem (.inl ?_) name' inside text tag' hin
      simpa using tag.notMem_open
  have hclosed : closed name value = tagUpTo name value ++ ['"'] ++ ['>'] ++ '<' :: '/' :: (name ++ ['>']) := by
    simp [closed]
  have hlast {s : List Char} {c d : Char} (h : d ≠ '/') : ¬ ['/', '>'] <:+ s ++ [d] ++ [c] := by
    rintro ⟨front, heq⟩
    have hd : front ++ ['/', '>'] = s ++ [d, c] := by simpa using heq
    exact h (List.cons.inj (List.append_inj' hd rfl).2).1.symm
  have hquote : ¬ ['/', '>'] <:+ tagUpTo name value ++ ['"'] := by
    rw [List.suffix_concat_iff]
    rintro (hnil | ⟨t, heq, -⟩)
    · cases hnil
    · cases (List.append_inj' (show ['/'] ++ ['>'] = t ++ ['"'] from heq) rfl).2
  rw [hclosed, settled_append_open, settled_concat (hlast (by decide)), settled_concat hquote]
  exact and_iff_left hend

/-- A text that ends inside a tag is settled. -/
theorem EndsInside.settled {s : List Char} (tag : TagName name) (h : EndsInside name s) : Settled s := by
  obtain ⟨front, blank, rest, rfl, hblank, hplain, settled⟩ := h
  refine settled_append_open.mpr ⟨settled, settled_of_notMem (.inr ?_)⟩
  have hclose := Text.of_isBlank (p := fun c => c ≠ '>') (by decide) hblank
  have hname : '>' ∉ name := fun hc => absurd (tag.isTagChar '>' hc) (by decide)
  simpa [hname, hclose.symm] using fun hc => (hplain '>' hc).2 rfl

/-- Where a value ends inside a tag of the name: in the tag it belongs to, or in one that it contains. -/
theorem endsInside_tagUpTo_iff {value : List Char} (tag : TagName name) :
    EndsInside name (tagUpTo name value) ↔
      (∀ c ∈ value, c ≠ '<' ∧ c ≠ '>') ∨
        ∃ front blank rest, value = front ++ '<' :: (name ++ blank :: rest) ∧ Text.isBlank blank = true ∧
          (∀ c ∈ rest, c ≠ '<' ∧ c ≠ '>') ∧ Settled (tagUpTo name front) := by
  constructor
  · rintro ⟨front, blank, rest, heq, hblank, hplain, settled⟩
    have hstart : '<' ∉ name ++ " a=\"".toList := by
      rw [List.mem_append, not_or]
      exact ⟨tag.notMem_open, by decide⟩
    rcases front with _ | ⟨c, front⟩
    · left
      have hvalue : " a=\"".toList ++ value = blank :: rest := by simpa [tagUpTo] using heq
      obtain rfl : rest = "a=\"".toList ++ value := (List.cons.inj hvalue).2.symm
      exact fun c hc => hplain c (List.mem_append_right _ hc)
    · right
      obtain ⟨rfl, hbehind⟩ := List.cons.inj heq
      obtain ⟨between, rfl, hvalue⟩ := Text.exists_of_append_eq_append_cons hstart hbehind
      exact ⟨between, blank, rest, hvalue, hblank, hplain, settled⟩
  · rintro (hplain | ⟨front, blank, rest, rfl, hblank, hplain, settled⟩)
    · refine ⟨[], ' ', "a=\"".toList ++ value, by simp [tagUpTo], rfl, ?_, settled_of_notMem (.inl nofun)⟩
      exact List.forall_mem_append.mpr ⟨by simp, hplain⟩
    · exact ⟨tagUpTo name front, blank, rest, by simp [tagUpTo], hblank, hplain, settled⟩

/-- A self-closing tag with a quoted value is closed by an end tag, and the closed tag stays as it is, exactly if the
value has neither `<` nor `>`, or ends inside a tag of the same name with nothing to expand in front of that tag. The
closed tag stays as it is exactly if there is nothing to expand in the value. -/
theorem quoted_value_expanded_iff (tag : TagName name) (nonvoid : namesVoid name = false) (value : List Char) :
    ((expandSelfClosing (selfClosed name value) = closed name value ∧
        expandSelfClosing (closed name value) = closed name value) ↔
      (∀ c ∈ value, c ≠ '<' ∧ c ≠ '>') ∨
        ∃ front blank rest, value = front ++ '<' :: (name ++ blank :: rest) ∧ Text.isBlank blank = true ∧
          (∀ c ∈ rest, c ≠ '<' ∧ c ≠ '>') ∧ Settled (tagUpTo name front)) ∧
      (expandSelfClosing (closed name value) = closed name value ↔ Settled (tagUpTo name value)) := by
  have hstays : expandSelfClosing (closed name value) = closed name value ↔ Settled (tagUpTo name value) := by
    rw [expandSelfClosing_eq_self_iff, settled_closed_iff tag]
  have hcloses :
      expandSelfClosing (selfClosed name value) = closed name value ↔ EndsInside name (tagUpTo name value) :=
    expandSelfClosing_eq_iff tag nonvoid
  refine ⟨?_, hstays⟩
  rw [hstays, hcloses, ← endsInside_tagUpTo_iff tag]
  exact and_iff_left_of_imp fun h => h.settled tag

/-- A slash in quotes does not matter. -/
theorem quoted_slash_expanded :
    TagName "app-x".toList ∧ namesVoid "app-x".toList = false ∧
      expandSelfClosing (selfClosed "app-x".toList "a / b".toList) = closed "app-x".toList "a / b".toList ∧
      expandSelfClosing (closed "app-x".toList "a / b".toList) = closed "app-x".toList "a / b".toList := by
  have tag : TagName "app-x".toList := ⟨⟨'a', "pp-x".toList, rfl, rfl⟩, List.all_eq_true.mp rfl⟩
  have nonvoid : namesVoid "app-x".toList = false := by decide +kernel
  exact ⟨tag, nonvoid, (quoted_value_expanded_iff tag nonvoid "a / b".toList).1.mpr (.inl (by simp))⟩

/-- Markup in quotes does: a tag with `>` in a value is not written out, and one with `/>` in a value is, inside the
value. -/
theorem quoted_markup_not_expanded :
    TagName "app-x".toList ∧ namesVoid "app-x".toList = false ∧ '"' ∉ "b>c".toList ∧
      expandSelfClosing (selfClosed "app-x".toList "b>c".toList) = selfClosed "app-x".toList "b>c".toList ∧
      selfClosed "app-x".toList "b>c".toList ≠ closed "app-x".toList "b>c".toList ∧
      TagName "p".toList ∧ namesVoid "p".toList = false ∧ '"' ∉ "/>".toList ∧
      String.ofList (expandSelfClosing (closed "p".toList "/>".toList)) = "<p a=\"></p>\"></p>" ∧
      String.ofList (closed "p".toList "/>".toList) = "<p a=\"/>\"></p>" := by
  refine ⟨⟨⟨'a', "pp-x".toList, rfl, rfl⟩, List.all_eq_true.mp rfl⟩, by decide +kernel, by decide, ?_, by decide,
    ⟨⟨'p', [], rfl, rfl⟩, List.all_eq_true.mp rfl⟩, by decide +kernel, by decide, ?_, ?_⟩
  all_goals decide +kernel

end WidgetTemplates.Template
