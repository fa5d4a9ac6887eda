import WidgetTemplates.Template.Lifting
import WidgetTemplates.Text.Digit
import WidgetTemplates.Text.Search

/-!
# Recognising placeholders

After reading the markup, texts and attribute values are cut at their placeholders (`split`), and the span
that was lifted can be put back (`restore`). A placeholder is recognised by its shape alone, wherever it
comes from; digits of any script are recognised, and a number that is not written in ASCII or that a 64-bit
word does not hold makes the placeholder an ordinary text.
-/

namespace WidgetTemplates.Template

/-- The start of a placeholder. -/
def placeholderStart : List Char := "__W_EXPR_".toList

/-- The number written by decimal digits, if a 64-bit word holds it. -/
def wordOfDigits? (digits : List Char) : Option Nat :=
  if digits.all Char.isDigit then
    let n := digits.foldl (fun n c => n * 10 + (c.toNat - '0'.toNat)) 0
    if n < 0x10000000000000000 then some n else none
  else none

/-- The digits of a placeholder at the front of a text. -/
def placeholderDigits? (s : List Char) : Option (List Char) :=
  match Text.dropStart? placeholderStart s with
  | none => none
  | some rest =>
    let digits := rest.takeWhile Text.isDigit
    match rest.drop digits.length with
    | '_' :: '_' :: _ => if digits.isEmpty then none else some digits
    | _ => none

/-- A piece of a text: one without placeholders, or a placeholder with its number. -/
inductive Piece where
  | literal (text : List Char)
  | placeholder (index : Nat) (text : List Char)
deriving DecidableEq, Repr

/-- The text of a piece. -/
def Piece.text : Piece → List Char
  | .literal text => text
  | .placeholder _ text => text

/-- What happens to the next characters while a text is being cut: they are looked at, or a number of them belong to a
placeholder that has been cut out, or to what only looks like one. -/
inductive Cutting where
  | looking
  | dropping (count : Nat)
  | keeping (count : Nat)

/-- The state after one of a number of characters. -/
def Cutting.after (make : Nat → Cutting) : Nat → Cutting
  | 0 => .looking
  | n + 1 => make n

/-- The literal piece of the characters gathered, latest first; an empty one is left out. -/
def gathered (pending : List Char) : List Piece :=
  if pending.isEmpty then [] else [.literal pending.reverse]

/-- Cuts a text after the literal characters `pending`, which are gathered latest first. -/
def splitFrom (pending : List Char) : Cutting → List Char → List Piece
  | _, [] => gathered pending
  | .dropping n, _ :: rest => splitFrom pending (.after .dropping n) rest
  | .keeping n, c :: rest => splitFrom (c :: pending) (.after .keeping n) rest
  | .looking, c :: rest =>
    match placeholderDigits? (c :: rest) with
    | none => splitFrom (c :: pending) .looking rest
    | some digits =>
      -- the characters of the placeholder after the first
      let left := placeholderStart.length + digits.length + 1
      match wordOfDigits? digits with
      | none => splitFrom (c :: pending) (.after .keeping left) rest
      | some index =>
        gathered pending ++ .placeholder index ((c :: rest).take (left + 1))
          :: splitFrom [] (.after .dropping left) rest

/-- The pieces of a text in order. -/
def split (text : List Char) : List Piece := splitFrom [] .looking text

/-- A text with every placeholder of a lifted expression turned back into `${…}`. -/
def restore (lifted : List Lifted) (text : List Char) : List Char :=
  (split text).flatMap fun
    | .literal t => t
    | .placeholder index t =>
      match lifted[index]? with
      | some e => '$' :: '\x7b' :: (e.code ++ ['\x7d'])
      | none => t

end WidgetTemplates.Template
