import WidgetTemplates.Template.Location
import WidgetTemplates.Text.Blank

/-!
# Lifting expressions out of a template

Before a template is read as markup, every `${…}` is taken out and a placeholder that markup leaves alone
is put in its place. The end of such a span is the brace that closes its first brace, looking past quoted
texts and template literals (`spanBraces`). A span that is never closed is left as text.

* `lift` gives the text with placeholders and the expressions in order.
-/

namespace WidgetTemplates.Template

/-- An expression taken out of a template: its text without the blanks around it, and the place of its `$`. -/
structure Lifted where
  code : List Char
  location : Location
deriving Repr

/-- What encloses the next character of an expression: braces, a quoted text inside them, or a template literal inside
them with a number of substitutions open. -/
inductive Enclosure where
  | braces (depth : Nat)
  | quoted (quote : Char) (depth : Nat)
  | literal (substitutions depth : Nat)
deriving Repr

/-- What encloses the character after `c`; a brace that closes the last one is not handled here. -/
def Enclosure.next (e : Enclosure) (c : Char) : Enclosure :=
  match e with
  | .braces depth =>
    if c == '"' || c == '\'' then .quoted c depth
    else if c == '\x60' then .literal 0 depth
    else if c == '\x7b' then .braces (depth + 1)
    else if c == '\x7d' then .braces (depth - 1)
    else e
  | .quoted quote depth => if c == quote then .braces depth else e
  | .literal substitutions depth =>
    if c == '\x60' && substitutions == 0 then .braces depth
    else if c == '\x7d' then .literal (substitutions - 1) depth
    else e

/-- Whether `c` closes the last open brace. -/
def Enclosure.closes (e : Enclosure) (c : Char) : Bool :=
  match e with
  | .braces depth => c == '\x7d' && depth == 1
  | _ => false

/-- Whether the two characters open a substitution. -/
def Enclosure.opensSubstitution (e : Enclosure) (c d : Char) : Bool :=
  match e with
  | .literal _ _ => c == '$' && d == '\x7b'
  | _ => false

/-- The enclosure inside a further substitution. -/
def Enclosure.deeper : Enclosure → Enclosure
  | .literal substitutions depth => .literal (substitutions + 1) depth
  | e => e

/-- The text up to and including the brace that closes the last open one. A backslash takes the character
after it along, wherever it stands. -/
def spanBraces? (e : Enclosure) : List Char → Option (List Char)
  | [] => none
  | [c] => if e.closes c then some [c] else none
  | c :: d :: rest =>
    if c == '\\' then (spanBraces? e rest).map fun span => c :: d :: span
    else if e.opensSubstitution c d then
      (spanBraces? e.deeper rest).map fun span => c :: d :: span
    else if e.closes c then some [c]
    else (spanBraces? (e.next c) (d :: rest)).map (c :: ·)

/-- The text that stands for the expression of a number. -/
def placeholder (index : Nat) : List Char :=
  "__W_EXPR_".toList ++ (toString index).toList ++ ['_', '_']

/-- The span in braces that follows a `$` at the front of the text. -/
def spanAt? : List Char → Option (List Char)
  | '$' :: rest =>
    match rest with
    | '\x7b' :: _ => spanBraces? (.braces 0) rest
    | _ => none
  | _ => none

/-- Lifts from a text at `location`, after `index` expressions. The first `skip` characters belong to the
span of an expression that has been lifted. -/
def liftFrom (index : Nat) (location : Location) : Nat → List Char → List Char × List Lifted
  | _, [] => ([], [])
  | skip + 1, c :: rest => liftFrom index (location.advance c) skip rest
  | 0, c :: rest =>
    match spanAt? (c :: rest) with
    | some span =>
      -- the rest of the span is passed over
      let (text, more) := liftFrom (index + 1) (location.advance c) span.length rest
      let code := Text.trim (span.drop 1).dropLast
      (placeholder index ++ text, ⟨code, location⟩ :: more)
    | none =>
      let (text, more) := liftFrom index (location.advance c) 0 rest
      (c :: text, more)

/-- The text with a placeholder for every expression, and the expressions. -/
def lift (source : List Char) : List Char × List Lifted := liftFrom 0 .start 0 source

end WidgetTemplates.Template
