import WidgetTemplates.Proofs.Compile.Merged
import WidgetTemplates.Proofs.Script.StringLiteral

/-!
# Reading static markup back

A template without anything computed is written in one call at most, and the literal in that call determines the
template. `staticBody?` reads it back: the literal, then the tags, attributes and texts of the markup it stands for,
then the character references in values and texts. It gives back every static forest (`staticBody?_generate`), but for
what markup does not show: where a node stood in its source, and the flag that tags with a hyphen carry
(`placelessAll`).

Neither the kind of the tags nor the names of an element's attributes matter for this. The reader knows no raw text and
keeps all attributes, so a tag may be `script`, and a name may occur twice.
-/

namespace WidgetTemplates.Compile

open Script (Expr)
open Template (Attribute Element Node)

/-! ## Words and references -/

/-- What is read while a test holds ends where it fails for the first time. -/
theorem span_append {p : Char → Bool} {s rest : List Char} (inside : ∀ c ∈ s, p c = true)
    (ends : ∀ c ∈ rest.head?, p c = false) : (s ++ rest).span p = (s, rest) := by
  rw [List.span_eq_takeWhile_dropWhile, List.takeWhile_append_of_pos inside, List.dropWhile_append_of_pos inside]
  rcases rest with _ | ⟨c, rest⟩
  · simp
  · simp [ends c rfl]

/-- A character of a tag or of the name of an attribute. -/
def isWordChar (c : Char) : Bool := ('a' ≤ c && c ≤ 'z') || c.isDigit || c == '-'

/-- A tag, or the name of an attribute. -/
def IsWord (name : String) : Prop := name ≠ "" ∧ name.toList.all isWordChar = true

instance (name : String) : Decidable (IsWord name) :=
  inferInstanceAs (Decidable (name ≠ "" ∧ name.toList.all isWordChar = true))

/-- The word at the front of a text, and what follows it. -/
def word? (s : List Char) : Option (String × List Char) :=
  match s.span isWordChar with
  | ([], _) => none
  | (cs, rest) => some (String.ofList cs, rest)

/-- A word is not empty. -/
theorem IsWord.toList_ne_nil {name : String} (h : IsWord name) : name.toList ≠ [] :=
  fun hnil => h.1 (String.toList_eq_nil_iff.mp hnil)

/-- A word is read where no character of a word follows. -/
theorem word?_append {name : String} (h : IsWord name) {rest : List Char}
    (ends : ∀ c ∈ rest.head?, isWordChar c = false) : word? (name.toList ++ rest) = some (name, rest) := by
  rw [word?, span_append (List.all_eq_true.mp h.2) ends]
  split
  · next heq => exact absurd (Prod.mk.inj heq).1 h.toList_ne_nil
  · next cs s _ heq =>
    obtain ⟨rfl, rfl⟩ := Prod.mk.inj heq
    rw [String.ofList_toList]

/-- A text with its character references decoded. -/
def decoded : List Char → List Char
  | '&' :: 'a' :: 'm' :: 'p' :: ';' :: s => '&' :: decoded s
  | '&' :: 'l' :: 't' :: ';' :: s => '<' :: decoded s
  | '&' :: 'g' :: 't' :: ';' :: s => '>' :: decoded s
  | '&' :: '#' :: '3' :: '4' :: ';' :: s => '"' :: decoded s
  | c :: s => c :: decoded s
  | [] => []

/-- A piece of text is decoded to a character. -/
def DecodesTo (part : List Char) (c : Char) : Prop := ∀ s, decoded (part ++ s) = c :: decoded s

/-- A character other than the ampersand decodes to itself. -/
theorem decodesTo_self {c : Char} (h : c ≠ '&') : DecodesTo [c] c := by
  intro s
  rw [List.singleton_append, decoded] <;> rintro _ ⟨⟩ <;> exact absurd rfl h

/-- An escaped character of a text decodes to that character. -/
theorem decodesTo_escapeTextChar (c : Char) : DecodesTo (Markup.escapeTextChar c) c := by
  rw [Markup.escapeTextChar]
  split
  · next h => exact eq_of_beq h ▸ fun _ => rfl
  split
  · next h => exact eq_of_beq h ▸ fun _ => rfl
  split
  · next h => exact eq_of_beq h ▸ fun _ => rfl
  · next h _ _ => exact decodesTo_self (by simpa using h)

/-- An escaped character of a value decodes to that character. -/
theorem decodesTo_escapeValueChar (c : Char) : DecodesTo (Markup.escapeValueChar c) c := by
  rw [Markup.escapeValueChar]
  split
  · next h => exact eq_of_beq h ▸ fun _ => rfl
  · exact decodesTo_escapeTextChar c

/-- A text of which every character decodes is decoded to it. -/
theorem decoded_flatMap {part : Char → List Char} (h : ∀ c, DecodesTo (part c) c) (s : List Char) :
    decoded (s.flatMap part) = s := by
  induction s with
  | nil => rfl
  | cons c s ih => rw [List.flatMap_cons, h c, ih]

/-- An escaped character is written with some character. -/
theorem escapeTextChar_ne_nil (c : Char) : Markup.escapeTextChar c ≠ [] := by
  rw [Markup.escapeTextChar]
  split_ifs <;> exact List.cons_ne_nil _ _

/-- In an escaped text no tag starts. -/
theorem notMem_escapeTextChar (c : Char) : '<' ∉ Markup.escapeTextChar c := by
  rw [Markup.escapeTextChar]
  split_ifs with _ hlt _
  · decide
  · decide
  · decide
  · intro hmem
    obtain rfl := List.mem_singleton.mp hmem
    exact hlt rfl

/-- In an escaped value no quote ends it. -/
theorem notMem_escapeValueChar (c : Char) : '"' ∉ Markup.escapeValueChar c := by
  rw [Markup.escapeValueChar, Markup.escapeTextChar]
  split_ifs with hquote
  · decide
  · decide
  · decide
  · decide
  · intro hmem
    obtain rfl := List.mem_singleton.mp hmem
    exact hquote rfl

/-! ## The reader -/

/-- The value of an attribute whose name has been read, and what follows it. -/
def attributeValue? : List Char → Option (Option Expr × List Char)
  | '=' :: '"' :: s =>
    match s.span (· != '"') with
    | (value, '"' :: s) => some (some (.str (String.ofList (decoded value))), s)
    | _ => none
  | s => some (none, s)

/-- The attribute at the front of a text, and what follows it. -/
def attribute? (s : List Char) : Option (Attribute × List Char) := do
  let (name, s) ← word? s
  let (value, s) ← attributeValue? s
  some (⟨name, value⟩, s)

/-- The attributes of a start tag, and what follows it. `fuel` bounds their number. -/
def attributes? : Nat → List Char → Option (List Attribute × List Char)
  | 0, _ => none
  | _ + 1, '>' :: s => some ([], s)
  | fuel + 1, ' ' :: s => do
    let (a, s) ← attribute? s
    let (more, s) ← attributes? fuel s
    some (a :: more, s)
  | _ + 1, _ => none

/-- The element of a start tag, and what follows it. -/
def startTag? (fuel : Nat) (s : List Char) : Option (Element × List Char) := do
  let (tag, s) ← word? s
  let (attributes, s) ← attributes? fuel s
  some ({ Element.named tag with attributes }, s)

/-- What follows the end tag. -/
def afterEndTag? (tag : String) : List Char → Option (List Char)
  | '<' :: '/' :: s => do
    let (name, s) ← word? s
    match s with
    | '>' :: s => if name == tag then some s else none
    | _ => none
  | _ => none

/-- The forest at the front of a text, up to an end tag or the end, and what follows it. `fuel` bounds the number of
its characters. -/
def forest? : Nat → List Char → Option (List Node × List Char)
  | 0, _ => none
  | _ + 1, [] => some ([], [])
  | fuel + 1, c :: s =>
    if c != '<' then do
      let (value, s) := (c :: s).span (· != '<')
      let (rest, s) ← forest? fuel s
      some (.text (String.ofList (decoded value)) .start :: rest, s)
    else if s.head? == some '/' then some ([], c :: s)
    else do
      let (el, s) ← startTag? fuel s
      if Template.isVoid el.tag then
        let (rest, s) ← forest? fuel s
        some (.element el [] :: rest, s)
      else
        let (children, s) ← forest? fuel s
        let s ← afterEndTag? el.tag s
        let (rest, s) ← forest? fuel s
        some (.element el children :: rest, s)

/-- The markup that a line writes. -/
def markupOfLine? : List Char → Option (List Char)
  | 'o' :: 'u' :: 't' :: '.' :: 'w' :: '(' :: '"' :: s =>
    match Script.literalText? s with
    | some (markup, [')', ';']) => some markup
    | _ => none
  | _ => none

/-- The static forest that a render function writes. -/
def staticBody? : List Line → Option (List Node)
  | [] => some []
  | [l] => do
    let markup ← markupOfLine? l.text.toList
    match forest? (markup.length + 1) markup with
    | some (nodes, []) => some nodes
    | _ => none
  | _ => none

/-! ## Static forests -/

/-- A value that is absent or a string literal. -/
def isLiteral : Option Expr → Bool
  | none | some (.str _) => true
  | _ => false

/-- A value that is literal is none, or a string. -/
theorem eq_of_isLiteral {value : Option Expr} (h : isLiteral value = true) :
    value = none ∨ ∃ text, value = some (.str text) := by
  rw [isLiteral.eq_def] at h
  split at h
  · exact .inl rfl
  · exact .inr ⟨_, rfl⟩
  · exact nomatch h

/-- An element that is written as markup and nothing else: its tag is a word, its attributes are named by words, nothing
about them is computed, and neither statements nor a widget stand around it. -/
structure StaticElement (el : Element) : Prop where
  tag : IsWord el.tag
  attributes : ∀ a ∈ el.attributes, IsWord a.name ∧ isLiteral a.value = true
  before : el.before = []
  after : el.after = []
  widget : el.widget = none

/-- A forest of static elements and texts. An element that has no content has no children, no text is empty, and no two
texts are next to each other. -/
inductive StaticForest : List Node → Prop where
  | nil : StaticForest []
  | element {el : Element} {children rest : List Node} (own : StaticElement el)
      (bare : Template.isVoid el.tag = true → children = []) (inside : StaticForest children)
      (after : StaticForest rest) : StaticForest (.element el children :: rest)
  | text {value : String} {location : Template.Location} {rest : List Node} (nonempty : value ≠ "")
      (apart : ∀ value location, rest.head? ≠ some (.text value location)) (after : StaticForest rest) :
      StaticForest (.text value location :: rest)

mutual

/-- A node without what markup does not show: where it stood, and whether its tag is one of another template. -/
def placeless : Node → Node
  | .element el children =>
    .element { el with location := .start, custom := Template.hasHyphen el.tag } (placelessAll children)
  | .text value _ => .text value .start
  | node => node

/-- A forest without what markup does not show. -/
def placelessAll : List Node → List Node
  | [] => []
  | node :: rest => placeless node :: placelessAll rest

end

/-! ## Reading what is written -/

/-- The characters of an attribute in a start tag. -/
def attributeText (a : Attribute) : List Char := (Entry.ofAttr 1 a).text.toList

/-- The markup of a static forest. -/
def forestText (nodes : List Node) : List Char := (entriesAll 1 nodes).flatMap (·.text.toList)

/-- An attribute without a value is written as its name. -/
theorem attributeText_none (name : String) : attributeText ⟨name, none⟩ = ' ' :: name.toList := by
  simp [attributeText, Entry.ofAttr, Entry.text]

/-- An attribute with a string is written with that in quotes. -/
theorem attributeText_str (name value : String) :
    attributeText ⟨name, some (.str value)⟩ =
      ' ' :: (name.toList ++ '=' :: '"' :: (value.toList.flatMap Markup.escapeValueChar ++ ['"'])) := by
  simp [attributeText, Entry.ofAttr, Entry.text, Markup.escapeValue, Text.expand]

/-- Behind an attribute stands another one, or the end of the tag. -/
def EndsAttribute (s : List Char) : Prop := ∃ c ∈ [' ', '>'], s.head? = some c

/-- There the name does not go on, and no value begins. -/
theorem not_isWordChar_of_mem {c : Char} (h : c ∈ [' ', '>']) : isWordChar c = false ∧ c ≠ '=' := by
  rcases List.mem_pair.mp h with rfl | rfl <;> decide

/-- A quoted value is read back. -/
theorem attributeValue?_str (value : String) (rest : List Char) :
    attributeValue? ('=' :: '"' :: (value.toList.flatMap Markup.escapeValueChar ++ '"' :: rest)) =
      some (some (.str value), rest) := by
  have hspan : (value.toList.flatMap Markup.escapeValueChar ++ '"' :: rest).span (· != '"') =
      (value.toList.flatMap Markup.escapeValueChar, '"' :: rest) := by
    refine span_append (fun c hc => ?_) (by rintro _ ⟨⟩; decide)
    obtain ⟨d, -, hd⟩ := List.mem_flatMap.mp hc
    rw [bne_iff_ne]
    rintro rfl
    exact notMem_escapeValueChar d hd
  rw [attributeValue?, hspan]
  show some (some (Expr.str (String.ofList (decoded (value.toList.flatMap Markup.escapeValueChar)))), rest) = _
  rw [decoded_flatMap decodesTo_escapeValueChar, String.ofList_toList]

/-- An attribute starts with a blank and is read behind it. -/
theorem attribute?_text {a : Attribute} (name : IsWord a.name)
    (literal : isLiteral a.value = true) {rest : List Char} (ends : EndsAttribute rest) :
    ∃ s, attributeText a = ' ' :: s ∧ attribute? (s ++ rest) = some (a, rest) := by
  obtain ⟨n, v⟩ := a
  rcases eq_of_isLiteral literal with rfl | ⟨value, rfl⟩
  · refine ⟨n.toList, attributeText_none n, ?_⟩
    obtain ⟨c, hc, hrest⟩ := ends
    have hword := not_isWordChar_of_mem hc
    obtain ⟨rest, rfl⟩ := List.head?_eq_some_iff.mp hrest
    have hvalue : attributeValue? (c :: rest) = some (none, c :: rest) := by
      rw [attributeValue?]
      rintro _ ⟨⟩
      exact hword.2 rfl
    rw [attribute?, word?_append name (by rintro _ ⟨⟩; exact hword.1), Option.bind_eq_bind, Option.bind_some]
    dsimp only
    rw [hvalue]
    rfl
  · refine ⟨_, attributeText_str n value, ?_⟩
    rw [List.append_assoc, List.cons_append, List.cons_append, List.append_assoc, List.singleton_append, attribute?,
      word?_append name (by rintro _ ⟨⟩; decide), Option.bind_eq_bind, Option.bind_some]
    dsimp only
    rw [attributeValue?_str]
    rfl

section Attributes

variable {attributes : List Attribute}
  (h : ∀ a ∈ attributes, IsWord a.name ∧ isLiteral a.value = true)

include h

/-- Behind an attribute stands another one or the end of the tag. -/
theorem endsAttribute_text (rest : List Char) : EndsAttribute (attributes.flatMap attributeText ++ '>' :: rest) := by
  rcases attributes with _ | ⟨a, attributes⟩
  · exact ⟨'>', by decide, rfl⟩
  · obtain ⟨hname, hvalue⟩ := h a List.mem_cons_self
    obtain ⟨s, hs, -⟩ := @attribute?_text a hname hvalue ['>'] ⟨'>', by decide, rfl⟩
    exact ⟨' ', by decide, by rw [List.flatMap_cons, hs]; rfl⟩

/-- Attributes are read back. -/
theorem attributes?_text {fuel : Nat} (enough : attributes.length < fuel) (rest : List Char) :
    attributes? fuel (attributes.flatMap attributeText ++ '>' :: rest) = some (attributes, rest) := by
  induction attributes generalizing fuel with
  | nil =>
    obtain ⟨fuel, rfl⟩ := Nat.exists_eq_add_one_of_ne_zero (Nat.ne_of_gt enough)
    rfl
  | cons a attributes ih =>
    obtain ⟨⟨hname, hvalue⟩, hattributes⟩ := List.forall_mem_cons.mp h
    rw [List.length_cons] at enough
    obtain ⟨fuel, rfl⟩ : ∃ more, fuel = more + 1 := ⟨fuel - 1, by omega⟩
    have hends := endsAttribute_text hattributes rest
    obtain ⟨s, hs, hread⟩ := attribute?_text hname hvalue hends
    rw [List.flatMap_cons, List.append_assoc, hs, List.cons_append, attributes?, hread, Option.bind_eq_bind,
      Option.bind_some]
    dsimp only
    rw [ih hattributes (by omega)]
    rfl

/-- Each attribute has a character at least. -/
theorem length_le_attributesText : attributes.length ≤ (attributes.flatMap attributeText).length := by
  induction attributes with
  | nil => exact Nat.le_refl _
  | cons a attributes ih =>
    obtain ⟨⟨hname, hvalue⟩, hattributes⟩ := List.forall_mem_cons.mp h
    obtain ⟨s, hs, -⟩ := @attribute?_text a hname hvalue ['>'] ⟨'>', by decide, rfl⟩
    have hmore := ih hattributes
    rw [List.flatMap_cons, hs, List.length_append, List.length_cons, List.length_cons]
    omega

end Attributes

/-- The text of a forest that starts with an element. -/
theorem forestText_element {el : Element} (own : StaticElement el) (children rest : List Node) :
    forestText (.element el children :: rest) =
      '<' :: (el.tag.toList ++ (el.attributes.flatMap attributeText ++ '>' ::
        ((if Template.isVoid el.tag then [] else forestText children ++ '<' :: '/' :: (el.tag.toList ++ ['>'])) ++
          forestText rest))) := by
  have hinner : innerDepth 1 el = 1 := by rw [innerDepth, own.widget]; rfl
  have hattributes : (el.attributes.map (Entry.ofAttr 1)).flatMap (·.text.toList) =
      el.attributes.flatMap attributeText := by
    rw [List.flatMap_map]
    rfl
  simp only [forestText, entriesAll, entries, hinner, own.before, own.after, own.widget, wrapperOpening, wrapperClosing,
    List.flatMap_append, List.flatMap_cons, hattributes]
  split <;> simp [Entry.text]

/-- The text of a forest that starts with a text. -/
theorem forestText_text (value : String) (location : Template.Location) (rest : List Node) :
    forestText (.text value location :: rest) = value.toList.flatMap Markup.escapeTextChar ++ forestText rest := by
  simp [forestText, entriesAll, entries, Entry.text, Markup.escapeText, Text.expand]

/-! ## Reading a forest -/

/-- Behind a forest stands an end tag, or nothing. -/
def EndsForest (s : List Char) : Prop := s = [] ∨ ∃ more, s = '<' :: '/' :: more

/-- Where a forest ends a tag starts. -/
theorem EndsForest.head?_eq {s : List Char} (h : EndsForest s) : ∀ c ∈ s.head?, c = '<' := by
  rcases h with rfl | ⟨more, rfl⟩
  · exact nofun
  · rintro _ ⟨⟩
    rfl

/-- What follows a text in a static forest is a tag, or nothing. -/
theorem head?_forestText {nodes : List Node} (h : StaticForest nodes)
    (apart : ∀ value location, nodes.head? ≠ some (.text value location)) {rest : List Char} (ends : EndsForest rest) :
    ∀ c ∈ (forestText nodes ++ rest).head?, c = '<' := by
  cases h with
  | nil => exact ends.head?_eq
  | element own _ _ _ =>
    rw [forestText_element own]
    rintro _ ⟨⟩
    rfl
  | text _ _ _ => exact absurd rfl (apart _ _)

/-- An end tag is read. -/
theorem afterEndTag?_tag {tag : String} (h : IsWord tag) (rest : List Char) :
    afterEndTag? tag ('<' :: '/' :: (tag.toList ++ '>' :: rest)) = some rest := by
  rw [afterEndTag?, word?_append h (by rintro _ ⟨⟩; decide), Option.bind_eq_bind, Option.bind_some]
  exact if_pos (beq_self_eq_true tag)

/-- The tag in a start tag does not look like an end tag. -/
theorem IsWord.head?_ne {tag : String} (h : IsWord tag) (rest : List Char) : (tag.toList ++ rest).head? ≠ some '/' := by
  rcases htag : tag.toList with _ | ⟨c, s⟩
  · exact absurd htag h.toList_ne_nil
  · have hc : isWordChar c = true := List.all_eq_true.mp h.2 c (htag ▸ List.mem_cons_self)
    rintro ⟨⟩
    exact absurd hc (by decide)

/-- A start tag is read back. -/
theorem startTag?_text {el : Element} (own : StaticElement el) {fuel : Nat} (enough : el.attributes.length < fuel)
    (rest : List Char) :
    startTag? fuel (el.tag.toList ++ (el.attributes.flatMap attributeText ++ '>' :: rest)) =
      some ({ el with location := .start, custom := Template.hasHyphen el.tag }, rest) := by
  have hends : EndsAttribute (el.attributes.flatMap attributeText ++ '>' :: rest) :=
    endsAttribute_text own.attributes rest
  obtain ⟨c, hc, hrest⟩ := hends
  rw [startTag?, word?_append own.tag fun d hd => ?word, Option.bind_eq_bind, Option.bind_some]
  case word =>
    obtain rfl : c = d := Option.some.inj (hrest.symm.trans hd)
    exact (not_isWordChar_of_mem hc).1
  dsimp only
  rw [attributes?_text own.attributes enough]
  obtain ⟨tag, attributes, location, custom, before, after, widget⟩ := el
  obtain rfl : before = [] := own.before
  obtain rfl : after = [] := own.after
  obtain rfl : widget = none := own.widget
  rfl

/-- The reader reads a static forest up to its end. -/
theorem forest?_text {nodes : List Node} (h : StaticForest nodes) {rest : List Char} (ends : EndsForest rest)
    {fuel : Nat} (enough : (forestText nodes ++ rest).length < fuel) :
    forest? fuel (forestText nodes ++ rest) = some (placelessAll nodes, rest) := by
  induction h generalizing fuel rest with
  | nil =>
    obtain ⟨fuel, rfl⟩ := Nat.exists_eq_add_one_of_ne_zero (Nat.ne_of_gt (Nat.zero_lt_of_lt enough))
    rcases ends with rfl | ⟨more, rfl⟩ <;> rfl
  | @element el children after own bare _ _ ihchildren ihafter =>
    have hattributes := length_le_attributesText own.attributes
    rw [forestText_element own, List.cons_append] at enough ⊢
    simp only [List.append_assoc, List.cons_append, List.length_cons, List.length_append] at enough ⊢
    obtain ⟨fuel, rfl⟩ : ∃ more, fuel = more + 1 := ⟨fuel - 1, by omega⟩
    rw [forest?, if_neg (by decide), if_neg (by rw [beq_iff_eq]; exact own.tag.head?_ne _),
      startTag?_text own (by omega), Option.bind_eq_bind, Option.bind_some]
    dsimp only
    -- a void element ends with its start tag, any other is read up to its end tag
    rcases hvoid : Template.isVoid el.tag with _ | _
    · rw [hvoid, if_neg Bool.false_ne_true] at enough
      simp only [List.length_append, List.length_cons, List.length_nil] at enough
      have hends : EndsForest ('<' :: '/' :: (el.tag.toList ++ '>' :: (forestText after ++ rest))) := .inr ⟨_, rfl⟩
      have hchildren := @ihchildren _ hends fuel (by simp only [List.length_append, List.length_cons]; omega)
      have hafter : forest? fuel (forestText after ++ rest) = some (placelessAll after, rest) :=
        ihafter ends (by rw [List.length_append]; omega)
      rw [if_neg Bool.false_ne_true, if_neg Bool.false_ne_true]
      simp only [List.append_assoc, List.cons_append, List.nil_append, hchildren, afterEndTag?_tag own.tag, hafter,
        Option.bind_eq_bind, Option.bind_some]
      rfl
    · obtain rfl := bare hvoid
      rw [if_pos rfl, if_pos rfl, List.nil_append, ihafter ends (by rw [List.length_append]; omega)]
      rfl
  | @text value location after nonempty apart hafter ih =>
    -- an escaped text has no `<`, and what follows it begins with one, so it is taken as a whole
    have hinside : ∀ c ∈ value.toList.flatMap Markup.escapeTextChar, (c != '<') = true := by
      intro c hc
      obtain ⟨d, -, hd⟩ := List.mem_flatMap.mp hc
      rw [bne_iff_ne]
      rintro rfl
      exact notMem_escapeTextChar d hd
    have hends : ∀ c ∈ (forestText after ++ rest).head?, (c != '<') = false := by
      intro c hc
      rw [bne_eq_false_iff_eq]
      exact head?_forestText hafter apart ends c hc
    have hspan := span_append hinside hends
    have hdecoded := decoded_flatMap decodesTo_escapeTextChar value.toList
    obtain ⟨c, s, hvalue⟩ : ∃ c s, value.toList.flatMap Markup.escapeTextChar = c :: s := by
      rcases hchars : value.toList with _ | ⟨d, chars⟩
      · exact absurd (String.toList_eq_nil_iff.mp hchars) nonempty
      · obtain ⟨c, s, hd⟩ := List.exists_cons_of_ne_nil (escapeTextChar_ne_nil d)
        exact ⟨c, s ++ chars.flatMap Markup.escapeTextChar, by rw [List.flatMap_cons, hd]; rfl⟩
    rw [forestText_text, List.append_assoc] at enough ⊢
    rw [hvalue] at enough hinside hspan hdecoded ⊢
    rw [List.cons_append] at enough hspan ⊢
    rw [List.length_cons, List.length_append] at enough
    obtain ⟨fuel, rfl⟩ : ∃ more, fuel = more + 1 := ⟨fuel - 1, by omega⟩
    rw [forest?, if_pos (hinside c List.mem_cons_self), hspan]
    dsimp only
    rw [ih ends (by omega), hdecoded, String.ofList_toList]
    rfl

/-! ## Reading a render function -/

/-- A static forest is written as markup only, all at one depth. -/
theorem StaticForest.flat {nodes : List Node} (h : StaticForest nodes) :
    ∀ e ∈ entriesAll 1 nodes, ∃ text, e = .markup 1 text := by
  induction h with
  | nil => exact List.forall_mem_nil _
  | @element el children rest own bare _ _ ihchildren ihrest =>
    have hinner : innerDepth 1 el = 1 := by rw [innerDepth, own.widget]; rfl
    have hattribute : ∀ a ∈ el.attributes, ∃ text, Entry.ofAttr 1 a = .markup 1 text := by
      intro a ha
      obtain ⟨name, value⟩ := a
      rcases eq_of_isLiteral (own.attributes _ ha).2 with rfl | ⟨value, rfl⟩ <;> exact ⟨_, rfl⟩
    have hend : ∀ e ∈ (if Template.isVoid el.tag then []
        else entriesAll 1 children ++ [Entry.markup 1 ("</" ++ el.tag ++ ">")]), ∃ text, e = .markup 1 text := by
      split
      · exact List.forall_mem_nil _
      · exact List.forall_mem_append.mpr ⟨ihchildren, List.forall_mem_singleton.mpr ⟨_, rfl⟩⟩
    simp only [entriesAll, entries, hinner, own.before, own.after, own.widget, wrapperOpening, wrapperClosing,
      List.map_nil, List.nil_append, List.append_nil, List.forall_mem_append, List.forall_mem_map,
      List.forall_mem_singleton]
    exact ⟨⟨⟨⟨⟨_, rfl⟩, hattribute⟩, ⟨_, rfl⟩⟩, hend⟩, ihrest⟩
  | text _ _ _ ih =>
    intro e he
    rcases List.mem_cons.mp he with rfl | he
    · exact ⟨_, rfl⟩
    · exact ih e he

/-- The markup is read back from the line that writes it. -/
theorem markupOfLine?_quote (markup : String) :
    markupOfLine? ("out.w(" ++ Script.quote markup ++ ");").toList = some markup.toList := by
  have hline : ("out.w(" ++ Script.quote markup ++ ");").toList =
      "out.w(".toList ++ '"' :: (Script.escape markup.toList ++ '"' :: ");".toList) := by
    simp [Script.toList_quote]
  rw [hline]
  show (match Script.literalText? (Script.escape markup.toList ++ '"' :: ");".toList) with
    | some (markup, [')', ';']) => some markup
    | _ => none) = _
  rw [Script.literalText?_escape]
  rfl

/-- **Static markup determines the tree.** A static forest is written in one line at most, and is read back from it. -/
theorem staticBody?_generate (u : CompileUnit) {nodes : List Node} (h : StaticForest nodes) :
    (generate u nodes).1.body.length ≤ 1 ∧ staticBody? (generate u nodes).1.body = some (placelessAll nodes) := by
  have hread := @forest?_text nodes h [] (.inl rfl) _ (Nat.lt_succ_self _)
  rw [List.append_nil] at hread
  have htext : forestText nodes = (String.join ((entriesAll 1 nodes).map Entry.text)).toList := by
    rw [forestText, String.toList_join, List.flatMap_map]
  have hbody := (body_merged u nodes).trans (merged_run h.flat)
  dsimp only at hbody
  rw [hbody]
  split
  · next hempty =>
    -- what is read from no markup is no forest
    rw [htext, String.isEmpty_iff.mp hempty] at hread
    obtain ⟨hnodes, -⟩ := Prod.mk.inj (Option.some.inj hread)
    exact ⟨Nat.zero_le _, congrArg some hnodes⟩
  · refine ⟨Nat.le_refl _, ?_⟩
    rw [staticBody?, markupOfLine?_quote, ← htext, Option.bind_eq_bind, Option.bind_some, hread]

/-- Both kinds of escapes are undone, and neither the place of a node nor its kind is read from its markup. -/
theorem paragraph_read_back :
    let nodes : List Node :=
      [.element { tag := "x-p", attributes := [⟨"class", some (.str "a&\"b")⟩, ⟨"hidden", none⟩], location := ⟨3, 7⟩ }
        [.text "1 < 2" ⟨3, 20⟩, .element { tag := "br" } []], .text "\u2028&lt;" .start]
    StaticForest nodes ∧
      (generate {} nodes).1.body =
        [⟨1, "out.w(\"<x-p class=\\\"a&amp;&#34;b\\\" hidden>1 &lt; 2<br></x-p>\\u2028&amp;lt;\");"⟩] ∧
      staticBody? (generate {} nodes).1.body =
        some [.element
          { tag := "x-p", attributes := [⟨"class", some (.str "a&\"b")⟩, ⟨"hidden", none⟩], custom := true }
          [.text "1 < 2" .start, .element { tag := "br" } []], .text "\u2028&lt;" .start] := by
  intro nodes
  have h : StaticForest nodes := by
    refine .element ⟨by decide, by decide, rfl, rfl, rfl⟩ (by decide) ?_ (.text (by decide) nofun .nil)
    exact .text (by decide) nofun (.element ⟨by decide, nofun, rfl, rfl, rfl⟩ (by decide) .nil .nil)
  exact ⟨h, by decide +kernel, (staticBody?_generate {} h).2⟩

end WidgetTemplates.Compile
