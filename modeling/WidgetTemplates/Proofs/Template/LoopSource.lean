import WidgetTemplates.Proofs.Template.TextNodes
import WidgetTemplates.Proofs.Text.Occurrences
import WidgetTemplates.Proofs.Text.Search
import WidgetTemplates.Template.Parse

/-!
# The source of a loop

Before a loop header is read, the expressions in it are put back as text, so a single expression is told from its first
two characters and its last one only. Putting back leaves the blanks around a text where they are (`trim_restore`). Any
other text is taken for a single expression exactly if it starts and ends like one, as a text with an expression at each
end does (`loop_source_iff`).
-/

namespace WidgetTemplates.Template

open Script (Expr)

/-! ## Putting expressions back -/

section Restore

variable {lifted : List Lifted}

/-- What is put back for an expression. -/
def Lifted.wrapped (e : Lifted) : List Char := '$' :: '\x7b' :: (e.code ++ ['\x7d'])

/-- A wrapped expression ends in a brace. -/
theorem Lifted.getLast?_append_wrapped (e : Lifted) (front : List Char) :
    (front ++ e.wrapped).getLast? = some '\x7d' := by
  have hlast : front ++ e.wrapped = front ++ '$' :: '\x7b' :: e.code ++ ['\x7d'] := by simp [wrapped]
  rw [hlast, List.getLast?_concat]

/-- What is put back for a piece. -/
def restored (lifted : List Lifted) : Piece → List Char
  | .literal text => text
  | .placeholder index text =>
    match lifted[index]? with
    | some e => e.wrapped
    | none => text

/-- A text is put back piece by piece. -/
theorem restore_eq_flatMap (text : List Char) : restore lifted text = (split text).flatMap (restored lifted) := by
  refine List.flatMap_congr fun piece _ => ?_
  cases piece <;> rfl

/-- Expressions are put back where the text is read as their spans. -/
theorem restore_eq_readAs (text : List Char) :
    restore lifted text = (readAs (lifted.map Lifted.wrapped) text).flatMap Part.text := by
  rw [restore_eq_flatMap, readAs, List.flatMap_assoc]
  refine List.flatMap_congr fun piece _ => ?_
  cases piece with
  | literal text => exact (Part.flatMap_text_map_char text).symm
  | placeholder index text =>
    rw [restored, Piece.putBack, List.getElem?_map]
    cases lifted[index]? with
    | none => exact (Part.flatMap_text_map_char text).symm
    | some e => exact (List.append_nil e.wrapped).symm

/-- A character that starts no placeholder stays when a text is put back. -/
theorem restore_cons {c : Char} {s : List Char} (h : placeholderDigits? (c :: s) = none) :
    restore lifted (c :: s) = c :: restore lifted s := by
  rw [restore_eq_readAs, readAs_cons h, restore_eq_readAs]
  rfl

/-- A placeholder is put back by itself. -/
theorem restore_shaped {digits text : List Char} (h : Shaped digits text) (rest : List Char) :
    restore lifted (text ++ rest) = restore lifted text ++ restore lifted rest := by
  have halone : readAs (lifted.map Lifted.wrapped) (text ++ []) = _ := readAs_shaped h []
  rw [List.append_nil] at halone
  rw [restore_eq_readAs, restore_eq_readAs, restore_eq_readAs, readAs_shaped h, halone, List.flatMap_append]
  simp [readAs, split, splitFrom, gathered]

/-- A text is read from left to right: a character is passed, or what has the shape of a placeholder. -/
theorem reading {P : List Char → Prop} (nil : P [])
    (char : ∀ c rest, placeholderDigits? (c :: rest) = none → P rest → P (c :: rest))
    (shape : ∀ digits text rest, Shaped digits text → P rest → P (text ++ rest)) (s : List Char) : P s := by
  induction s using Text.induction_behind with
  | step s ih =>
    rcases hdigits : placeholderDigits? s with _ | digits
    · rcases s with _ | ⟨c, rest⟩
      · exact nil
      · exact char c rest hdigits (ih [c] rest nofun rfl)
    · obtain ⟨text, rest, shaped, rfl⟩ := placeholderDigits?_eq_some_iff.mp hdigits
      obtain ⟨inside, rfl⟩ := shaped.exists_cons
      exact shape digits _ rest shaped (ih ('_' :: inside) rest nofun rfl)

/-- Expressions are put back on both sides of a blank. -/
theorem restore_append_cons (lifted : List Lifted) {blank : Char} (h : Text.isBlank blank = true)
    (front rest : List Char) :
    restore lifted (front ++ blank :: rest) = restore lifted front ++ blank :: restore lifted rest := by
  have hout {digits text : List Char} (shaped : Shaped digits text) : blank ∉ text := fun hmem =>
    List.countP_eq_zero.mp shaped.countP_isBlank blank hmem h
  have hnone {front : List Char} (hfront : placeholderDigits? front = none) :
      placeholderDigits? (front ++ blank :: rest) = none := by
    rw [Option.eq_none_iff_forall_not_mem]
    intro digits hdigits
    obtain ⟨text, behind, shaped, heq⟩ := placeholderDigits?_eq_some_iff.mp hdigits
    have hprefix := Text.isPrefixOf_append_cons (hout shaped) front rest
    rw [heq, List.isPrefixOf_iff_prefix.mpr (List.prefix_append text behind)] at hprefix
    obtain ⟨back, rfl⟩ := List.isPrefixOf_iff_prefix.mp hprefix.symm
    rw [placeholderDigits?_eq_some_iff.mpr ⟨text, back, shaped, rfl⟩] at hfront
    cases hfront
  induction front using reading with
  | nil =>
    have hblank : placeholderDigits? ([] ++ blank :: rest) = none := hnone rfl
    exact restore_cons hblank
  | char c front hfront ih =>
    rw [restore_cons hfront]
    exact (restore_cons (hnone hfront)).trans (congrArg (c :: ·) ih)
  | shape digits text front shaped ih =>
    rw [List.append_assoc, restore_shaped shaped, restore_shaped shaped, ih, List.append_assoc]

/-- Blanks in front of a text stay. -/
theorem restore_blanks_append (lifted : List Lifted) {blanks : List Char} (h : ∀ c ∈ blanks, Text.isBlank c = true)
    (s : List Char) :
    restore lifted (blanks ++ s) = blanks ++ restore lifted s := by
  induction blanks with
  | nil => rfl
  | cons c blanks ih =>
    rw [List.forall_mem_cons] at h
    have hcut := restore_append_cons lifted h.1 [] (blanks ++ s)
    rw [ih h.2] at hcut
    exact hcut

/-- Blanks behind a text stay. -/
theorem restore_append_blanks (lifted : List Lifted) {blanks : List Char} (h : ∀ c ∈ blanks, Text.isBlank c = true)
    (s : List Char) :
    restore lifted (s ++ blanks) = restore lifted s ++ blanks := by
  rcases blanks with _ | ⟨c, blanks⟩
  · rw [List.append_nil, List.append_nil]
  · rw [List.forall_mem_cons] at h
    have hrest := restore_blanks_append lifted h.2 []
    rw [List.append_nil] at hrest
    rw [restore_append_cons lifted h.1, hrest]
    exact congrArg (restore lifted s ++ c :: ·) (List.append_nil blanks)

/-- A piece is put back as it is, or as a wrapped expression. -/
theorem restored_eq (lifted : List Lifted) (p : Piece) :
    restored lifted p = p.text ∨ ∃ e : Lifted, restored lifted p = e.wrapped := by
  cases p with
  | literal text => exact .inl rfl
  | placeholder index text =>
    rw [restored]
    cases lifted[index]? with
    | none => exact .inl rfl
    | some e => exact .inr ⟨e, rfl⟩

/-- A text that is not empty is not so when it is put back. -/
theorem restore_ne_nil {text : List Char} (h : text ≠ []) : restore lifted text ≠ [] := by
  have htext := flatMap_text_split text
  rcases hpieces : split text with _ | ⟨p, pieces⟩
  · rw [hpieces] at htext
    exact absurd htext.symm h
  · have hp := (proper_of_mem_split (hpieces ▸ List.mem_cons_self : p ∈ split text)).text_ne_nil
    rw [restore_eq_flatMap, hpieces, List.flatMap_cons]
    rcases restored_eq lifted p with heq | ⟨e, heq⟩
    · exact List.append_ne_nil_of_left_ne_nil (by rwa [heq]) _
    · rw [heq]
      nofun

/-- A text that has no blanks at its ends gets none: an expression is put back between `$` and a brace. -/
theorem unpadded_restore {t : List Char} (h : Text.Unpadded t) : Text.Unpadded (restore lifted t) := by
  have htext := flatMap_text_split t
  have hproper : ∀ p ∈ split t, p.text ≠ [] := fun p hp => (proper_of_mem_split hp).text_ne_nil
  rw [restore_eq_flatMap]
  constructor
  · rcases hpieces : split t with _ | ⟨p, pieces⟩
    · exact nofun
    · rw [hpieces, List.flatMap_cons] at htext
      rw [hpieces, List.forall_mem_cons] at hproper
      rw [List.flatMap_cons]
      -- a piece that stays begins as it did, and an expression begins with `$`
      rcases restored_eq lifted p with heq | ⟨e, heq⟩
      · rw [heq, List.head?_append_of_ne_nil _ hproper.1, ← List.head?_append_of_ne_nil _ hproper.1, htext]
        exact h.head
      · rw [heq, Lifted.wrapped]
        simp
        decide
  · rcases List.eq_nil_or_concat' (split t) with hpieces | ⟨pieces, p, hpieces⟩
    · rw [hpieces]
      exact nofun
    · rw [hpieces, List.flatMap_append, List.flatMap_singleton] at htext
      rw [hpieces, List.forall_mem_append, List.forall_mem_singleton] at hproper
      rw [hpieces, List.flatMap_append, List.flatMap_singleton]
      -- likewise at the end, where an expression has its brace
      rcases restored_eq lifted p with heq | ⟨e, heq⟩
      · rw [heq, List.getLast?_append_of_ne_nil _ hproper.2, ← List.getLast?_append_of_ne_nil _ hproper.2, htext]
        exact h.last
      · rw [heq, e.getLast?_append_wrapped]
        exact fun c hc => Option.some.inj hc ▸ rfl

/-- The blanks around a text stay around it. -/
theorem trim_restore (s : List Char) : Text.trim (restore lifted s) = restore lifted (Text.trim s) := by
  obtain ⟨front, back, hs, hfront, hback⟩ := Text.exists_trim s
  refine Text.trim_eq_iff.mpr ⟨unpadded_restore (Text.unpadded_trim s), front, back, ?_, hfront, hback⟩
  conv_lhs => rw [hs]
  rw [restore_append_blanks lifted hback, restore_blanks_append lifted hfront]

end Restore

/-! ## Loop headers -/

/-- The name of a loop item: a letter, `_` or `$`, and these and digits behind it. -/
structure ItemName (item : List Char) : Prop where
  head : ∃ first rest, item = first :: rest ∧ isItemStart first = true
  isItemChar : ∀ c ∈ item, isItemChar c = true

/-- The characters of items are no blanks. -/
theorem isBlank_eq_false_of_isItemChar {c : Char} (h : isItemChar c = true) : Text.isBlank c = false := by
  rw [← Bool.not_eq_true]
  intro blank
  have hnot := Text.of_isBlank (p := fun c => isItemChar c = false) (by decide) blank
  exact absurd h (by rw [hnot]; decide)

/-- In front of something that continues no name, a text of such characters is taken for the item. -/
theorem item_found {item : List Char} {d : Char} (after : List Char) (chars : ∀ c ∈ item, isItemChar c = true)
    (ne_nil : item ≠ []) (stops : isItemChar d = false) :
    Text.trimStart (item ++ d :: after) = item ++ d :: after ∧ (item ++ d :: after).takeWhile isItemChar = item := by
  refine ⟨Text.trimStart_eq_self fun c hc => ?_, Text.takeWhile_append_cons chars stops after⟩
  rw [List.head?_append_of_ne_nil _ ne_nil] at hc
  exact isBlank_eq_false_of_isItemChar (chars c (List.mem_of_mem_head? hc))

/-- The source is what follows the blank behind `in`, if something follows. -/
theorem loopSource?_cons {rest : List Char} (oneLine : '\n' ∉ rest) :
    loopSource? (' ' :: rest) = if rest = [] then none else some (Text.trim rest) := by
  have hdrop : rest.drop (rest.takeWhile Text.isBlank).length = Text.trimStart rest :=
    List.append_cancel_left ((List.prefix_iff_eq_append.mp (List.takeWhile_prefix _)).trans
      List.takeWhile_append_dropWhile.symm)
  have htake : (' ' :: rest).takeWhile Text.isBlank = ' ' :: rest.takeWhile Text.isBlank := rfl
  obtain ⟨front, back, hrest, -⟩ := Text.exists_trim rest
  have hline : (Text.trim rest).contains '\n' = false := by
    rw [← Bool.not_eq_true, List.contains_iff_mem]
    refine fun hmem => oneLine ?_
    rw [hrest]
    exact List.mem_append_left _ (List.mem_append_right _ hmem)
  rw [loopSource?, htake, List.length_cons, List.drop_succ_cons, hdrop, ← Text.trim, hline]
  by_cases hblank : Text.trim rest = []
  · have hall : rest.takeWhile Text.isBlank = rest := List.takeWhile_eq_self_iff.mpr (Text.trim_eq_nil_iff.mp hblank)
    rw [hblank, hall]
    rcases rest with _ | ⟨c, rest⟩
    · rfl
    · have hc : c ≠ '\n' := fun heq => oneLine (heq ▸ List.mem_cons_self)
      simp [hc]
  · have hne : rest ≠ [] := fun hnil => hblank (by rw [hnil]; rfl)
    simp [hblank, hne]

/-- A header with one blank on each side of `in`. -/
theorem loopHeader?_in {item : List Char} (name : ItemName item) {rest : List Char} (oneLine : '\n' ∉ rest) :
    loopHeader? (item ++ " in ".toList ++ rest) = if rest = [] then none else some (item, Text.trim rest) := by
  obtain ⟨first, more, hitem, hfirst⟩ := name.head
  have htext : item ++ " in ".toList ++ rest = item ++ ' ' :: 'i' :: 'n' :: ' ' :: rest := by simp
  have hfound := item_found (d := ' ') ('i' :: 'n' :: ' ' :: rest) name.isItemChar (by rw [hitem]; nofun) rfl
  have hhead : item.head?.any isItemStart = true := by rw [hitem]; exact hfirst
  have htake : (' ' :: 'i' :: 'n' :: ' ' :: rest).takeWhile Text.isBlank = [' '] := rfl
  rw [htext, loopHeader?, hfound.1, hfound.2, List.drop_left, hhead, htake]
  change (loopSource? (' ' :: rest)).map (item, ·) = _
  rw [loopSource?_cons oneLine]
  split <;> rfl

/-- An item that runs into a brace makes no header. -/
theorem loopHeader?_brace {item : List Char} (chars : ∀ c ∈ item, isItemChar c = true) (ne_nil : item ≠ [])
    (after : List Char) : loopHeader? (item ++ '\x7b' :: after) = none := by
  have hfound := item_found (d := '\x7b') after chars ne_nil rfl
  rw [loopHeader?, hfound.1, hfound.2, List.drop_left]
  exact if_pos (Bool.or_eq_true_iff.mpr (.inr rfl))

/-- A text between the marks of an expression. -/
def Wrapped (text : List Char) : Prop := ∃ inner, text = '$' :: '\x7b' :: (inner ++ ['\x7d'])

/-- The braces around a source are taken off, with the blanks inside. -/
theorem unwrapSource_wrapped (inner : List Char) :
    unwrapSource ('$' :: '\x7b' :: (inner ++ ['\x7d'])) = Text.trim inner := by
  have hstart : Text.dropStart? ['$', '\x7b'] ('$' :: '\x7b' :: (inner ++ ['\x7d'])) = some (inner ++ ['\x7d']) :=
    Text.dropStart?_eq_some_iff.mpr rfl
  have hend : Text.dropEnd? ['\x7d'] (inner ++ ['\x7d']) = some inner := Text.dropEnd?_eq_some_iff.mpr rfl
  rw [unwrapSource, hstart]
  dsimp only
  rw [hend]

/-- A source that is not in braces stays. -/
theorem unwrapSource_eq_self {source : List Char} (h : ¬ Wrapped source) : unwrapSource source = source := by
  rw [unwrapSource]
  split
  · rfl
  · next rest hrest =>
    split
    · next inner hinner =>
      refine absurd ⟨inner, ?_⟩ h
      rw [Text.dropStart?_eq_some_iff.mp hrest, Text.dropEnd?_eq_some_iff.mp hinner]
      rfl
    · rfl

/-! ## Loops -/

/-- The expression whose placeholder the text is. -/
def placed? (lifted : List Lifted) (text : List Char) : Option Lifted :=
  match split text with
  | [.placeholder index _] => lifted[index]?
  | _ => none

/-- The source meant by what follows `in`: a single expression by itself, and any other text with its expressions put
back. -/
def meantSource (lifted : List Lifted) (text : List Char) : List Char :=
  match placed? lifted (Text.trim text) with
  | some e => e.code
  | none => restore lifted (Text.trim text)

section Loop

variable {lifted : List Lifted}

/-- A placeholder that stands alone stands for a lifted expression. -/
theorem restore_of_placed? {text : List Char} {e : Lifted} (h : placed? lifted text = some e) :
    e ∈ lifted ∧ restore lifted text = e.wrapped := by
  rw [placed?] at h
  split at h
  · next index t hsplit =>
    refine ⟨List.mem_of_getElem? h, ?_⟩
    rw [restore_eq_flatMap, hsplit, List.flatMap_singleton, restored, h]
  · cases h

/-- Lifted expressions have no blanks at their ends. -/
theorem unpadded_code {source : List Char} {e : Lifted} (h : e ∈ (lift source).2) : Text.Unpadded e.code := by
  have hcode : e.code ∈ (lift source).2.map Lifted.code := List.mem_map_of_mem h
  rw [lift, map_code_liftFrom] at hcode
  obtain ⟨span, -, heq⟩ := List.mem_map.mp hcode
  rw [← heq]
  exact Text.unpadded_trim _

/-- A name that looks like the placeholder of an expression becomes one, and is no name any more. -/
theorem restore_item (lifted : List Lifted) {item : List Char} (chars : ∀ c ∈ item, isItemChar c = true) :
    restore lifted item = item ∨
      ∃ front after, restore lifted item = front ++ '\x7b' :: after ∧ front ≠ [] ∧
        ∀ c ∈ front, isItemChar c = true := by
  have hpieces : ∀ pieces : List Piece, (∀ c ∈ pieces.flatMap Piece.text, isItemChar c = true) →
      pieces.flatMap (restored lifted) = pieces.flatMap Piece.text ∨
        ∃ front after, pieces.flatMap (restored lifted) = front ++ '\x7b' :: after ∧ front ≠ [] ∧
          ∀ c ∈ front, isItemChar c = true := by
    intro pieces hall
    induction pieces with
    | nil => exact .inl rfl
    | cons p pieces ih =>
      rw [List.flatMap_cons, List.forall_mem_append] at hall
      rw [List.flatMap_cons, List.flatMap_cons]
      rcases restored_eq lifted p with heq | ⟨e, heq⟩
      · rw [heq]
        rcases ih hall.2 with hrest | ⟨front, after, hrest, ne_nil, hfront⟩
        · exact .inl (congrArg _ hrest)
        · refine .inr ⟨p.text ++ front, after, by rw [hrest, List.append_assoc], by simp [ne_nil], ?_⟩
          exact List.forall_mem_append.mpr ⟨hall.1, hfront⟩
      · exact .inr ⟨['$'], _, by rw [heq]; rfl, nofun, List.forall_mem_singleton.mpr rfl⟩
  rw [restore_eq_flatMap]
  have hitem := hpieces (split item) (by rwa [flatMap_text_split])
  rwa [flatMap_text_split] at hitem

/-- A header is put back on both sides of `in`. -/
theorem restore_header (item text : List Char) :
    restore lifted (item ++ " in ".toList ++ text) = restore lifted item ++ " in ".toList ++ restore lifted text := by
  have htext : item ++ " in ".toList ++ text = item ++ ' ' :: (['i', 'n'] ++ ' ' :: text) := by simp
  have hin : restore lifted ['i', 'n'] = ['i', 'n'] := by
    rw [restore_cons (by decide), restore_cons (by decide)]
    rfl
  rw [htext, restore_append_cons lifted (by decide), restore_append_cons lifted (by decide), hin]
  simp

end Loop

/-- The loop that a header gives. -/
theorem nodes_of_header {s : Source} {attrs : List (String × String)} {children : List Markup.Tree} {header : List Char}
    (marked : attrs.any (·.1 == loopMarker) = true) (each : attrs.lookup "each" = some (String.ofList header)) :
    (convert s (.element "template" attrs children)).nodes =
      match loopHeader? (restore s.lifted header) with
      | none => []
      | some (item, source) =>
        [.loop (String.ofList item) (Expr.ofText (String.ofList (unwrapSource source)))
          (convertList s children).nodes .start] := by
  have htag : ("template" == "template" && attrs.any (·.1 == loopMarker)) = true := by rw [marked]; rfl
  rw [convert, if_pos htag, each, Option.getD_some, String.toList_ofList]
  dsimp only
  cases loopHeader? (restore s.lifted header) <;> rfl

/-- An expression is made of a text without the blanks around it. -/
theorem ofText_ofList (text : List Char) :
    Expr.ofText (String.ofList text) = .raw (String.ofList (Text.trim text)) := by
  rw [Expr.ofText, Text.trimmed, String.toList_ofList]

section Meant

variable {s : Source} {attrs : List (String × String)} {children : List Markup.Tree} {item text : List Char}

/-- A loop over a text that is not empty has its text as the source, put back, trimmed and unwrapped. -/
theorem nodes_of_loop (marked : attrs.any (·.1 == loopMarker) = true)
    (each : attrs.lookup "each" = some (String.ofList (item ++ " in ".toList ++ text))) (name : ItemName item)
    (oneLine : '\n' ∉ restore s.lifted text) (itself : restore s.lifted item = item) (some_text : text ≠ []) :
    (convert s (.element "template" attrs children)).nodes =
      [.loop (String.ofList item) (.raw (String.ofList (Text.trim (unwrapSource (restore s.lifted (Text.trim text))))))
        (convertList s children).nodes .start] := by
  rw [nodes_of_header marked each, restore_header, itself, loopHeader?_in name oneLine,
    if_neg (restore_ne_nil some_text), trim_restore]
  dsimp only
  rw [ofText_ofList]

/-- There is no loop over an empty text, or with a placeholder for its item. -/
theorem nodes_of_no_loop (marked : attrs.any (·.1 == loopMarker) = true)
    (each : attrs.lookup "each" = some (String.ofList (item ++ " in ".toList ++ text))) (name : ItemName item)
    (h : restore s.lifted item ≠ item ∨ text = []) :
    (convert s (.element "template" attrs children)).nodes = [] := by
  rw [nodes_of_header marked each, restore_header]
  rcases restore_item s.lifted name.isItemChar with itself | ⟨front, after, heq, ne_nil, hfront⟩
  · obtain rfl : text = [] := h.resolve_left (absurd itself)
    rw [itself, loopHeader?_in name (show '\n' ∉ restore s.lifted [] from nofun)]
    rfl
  · rw [heq, List.append_assoc, List.append_assoc, List.cons_append, loopHeader?_brace hfront ne_nil]

end Meant

/-- What stands between the marks is not the text with them. -/
theorem trim_unwrapSource_eq_iff {source : List Char} (h : Text.Unpadded source) :
    Text.trim (unwrapSource source) = source ↔ ¬ Wrapped source := by
  constructor
  · rintro heq ⟨inner, rfl⟩
    rw [unwrapSource_wrapped, (Text.unpadded_trim inner).trim_eq] at heq
    obtain ⟨front, back, hinner, -⟩ := Text.exists_trim inner
    have hlength := congrArg List.length hinner
    rw [heq] at hlength
    simp at hlength
    omega
  · intro hnot
    rw [unwrapSource_eq_self hnot, h.trim_eq]

/-- The source that a loop over a text has is the one that is meant exactly if the text is a single expression, or does
not look like one. -/
theorem source_eq_meantSource_iff {template text : List Char} :
    Text.trim (unwrapSource (restore (lift template).2 (Text.trim text))) = meantSource (lift template).2 text ↔
      (placed? (lift template).2 (Text.trim text)).isSome ∨ ¬ Wrapped (restore (lift template).2 (Text.trim text)) := by
  rw [meantSource]
  cases hplaced : placed? (lift template).2 (Text.trim text) with
  | none =>
    dsimp only
    rw [trim_unwrapSource_eq_iff (unpadded_restore (Text.unpadded_trim text))]
    simp
  | some e =>
    obtain ⟨hmem, hrestore⟩ := restore_of_placed? hplaced
    have hcode : Text.trim e.code = e.code := (unpadded_code hmem).trim_eq
    rw [hrestore, Lifted.wrapped, unwrapSource_wrapped, hcode, hcode]
    simp

/-- A loop `item in text` whose source does not go over a line has the source that is meant exactly if the text is not
empty, the item is not the placeholder of an expression, and the text around its blanks either is a single expression or
does not start and end with the marks of one. Text that does is unwrapped as if it were one. -/
theorem loop_source_iff (settings : Settings) (template : List Char) {attrs : List (String × String)}
    (children : List Markup.Tree) (item text : List Char) (marked : attrs.any (·.1 == loopMarker) = true)
    (each : attrs.lookup "each" = some (String.ofList (item ++ " in ".toList ++ text))) (name : ItemName item)
    (oneLine : '\n' ∉ restore (lift template).2 text) :
    let s : Source := ⟨settings, (lift template).2⟩
    let loop (source : List Char) : List Node :=
      [.loop (String.ofList item) (.raw (String.ofList source)) (convertList s children).nodes .start]
    let nodes := (convert s (.element "template" attrs children)).nodes
    (nodes = loop (meantSource s.lifted text) ↔
      text ≠ [] ∧ restore s.lifted item = item ∧
        ((placed? s.lifted (Text.trim text)).isSome ∨ ¬ Wrapped (restore s.lifted (Text.trim text)))) ∧
      ∀ inner, text ≠ [] → restore s.lifted item = item →
        restore s.lifted (Text.trim text) = '$' :: '\x7b' :: (inner ++ ['\x7d']) → nodes = loop (Text.trim inner) := by
  intro s loop nodes
  have hfound (itself : restore s.lifted item = item) (some_text : text ≠ []) :
      nodes = loop (Text.trim (unwrapSource (restore s.lifted (Text.trim text)))) :=
    nodes_of_loop marked each name oneLine itself some_text
  have hsame (source source' : List Char) : loop source = loop source' ↔ source = source' := by
    simp [loop, String.ofList_inj]
  refine ⟨?_, ?_⟩
  -- where there is no loop at all, the source cannot be the one that is meant
  · by_cases hloop : restore s.lifted item = item ∧ text ≠ []
    · rw [hfound hloop.1 hloop.2, hsame, source_eq_meantSource_iff]
      exact ⟨fun h => ⟨hloop.2, hloop.1, h⟩, fun h => h.2.2⟩
    · have hnodes : nodes = [] := by
        refine nodes_of_no_loop marked each name ?_
        rwa [not_and_or, not_not] at hloop
      rw [hnodes]
      constructor
      · exact nofun
      · exact fun h => absurd ⟨h.2.1, h.1⟩ hloop
  · intro inner some_text itself hwrapped
    rw [hfound itself some_text, hwrapped, unwrapSource_wrapped, (Text.unpadded_trim inner).trim_eq]

/-- A source that is a placeholder with a blank behind it loses its braces. -/
theorem loop_source_unwrapped :
    (convert ⟨{}, (lift "<for each=\"x in $\x7b items \x7d \">".toList).2⟩
        (.element "template" [(loopMarker, ""), ("each", "x in __W_EXPR_0__ ")] [])).nodes =
      [.loop "x" (.raw "items") [] .start] :=
  (loop_source_iff {} "<for each=\"x in $\x7b items \x7d \">".toList [] ['x']
    "__W_EXPR_0__ ".toList rfl rfl ⟨⟨'x', [], rfl, rfl⟩, List.forall_mem_singleton.mpr rfl⟩ (by decide)).1.mpr
    ⟨by decide, by decide, .inl (by decide)⟩

/-- A source with an expression at each end loses its first and its last marks. -/
theorem loop_source_cut :
    let lifted := (lift "<for each=\"x in $\x7ba\x7d + $\x7bb\x7d\">".toList).2
    let text := "__W_EXPR_0__ + __W_EXPR_1__".toList
    (convert ⟨{}, lifted⟩
          (.element "template" [(loopMarker, ""), ("each", "x in __W_EXPR_0__ + __W_EXPR_1__")] [])).nodes =
        [.loop "x" (.raw "a\x7d + $\x7bb") [] .start] ∧
      ItemName ['x'] ∧ '\n' ∉ text ∧ (∀ e ∈ lifted, '\n' ∉ e.code) ∧ (placed? lifted (Text.trim text)).isNone ∧
      String.ofList (meantSource lifted text) = "$\x7ba\x7d + $\x7bb\x7d" := by
  refine ⟨?_, ⟨⟨'x', [], rfl, rfl⟩, List.forall_mem_singleton.mpr rfl⟩, by decide, by decide, by decide, by decide⟩
  rfl

end WidgetTemplates.Template
