import WidgetTemplates.Script.Grammar.IdentifierTable
import WidgetTemplates.Text.Range

/-!
# The small parts of a script

Where names, numbers, strings, templates, regular expressions, blanks and comments end. Each function
takes the text from some point on and yields what is left after the part, or nothing if the part is not
well formed.
-/

namespace WidgetTemplates.Script.Grammar

/-! ## Characters -/

/-- A character that ends a line. -/
def isLineEnd (c : Char) : Bool := c == '\n' || c == '\r' || c == '\u2028' || c == '\u2029'

/-- The blanks above ASCII. -/
def blankRanges : List (Nat × Nat) :=
  [(0x85, 0x85), (0xA0, 0xA0), (0x1680, 0x1680), (0x2000, 0x200B), (0x202F, 0x202F), (0x205F, 0x205F),
   (0x3000, 0x3000), (0xFEFF, 0xFEFF)]

/-- A blank that ends no line. -/
def isSpace (c : Char) : Bool :=
  c == ' ' || c == '\t' || c == '\x0b' || c == '\x0c' || Text.inRanges blankRanges c

/-- A character that a name may start with. -/
def isNameStart (c : Char) : Bool :=
  c.isAlpha || c == '$' || c == '_' || (c.toNat > 127 && Text.inRanges identifierStartRanges c)

/-- A character that a name may continue with. -/
def isNamePart (c : Char) : Bool :=
  isNameStart c || c.isDigit || (c.toNat > 127 && Text.inRanges identifierExtraRanges c)

/-- The value of a hexadecimal digit. -/
def hexDigit? (c : Char) : Option Nat :=
  if c.isDigit then some (c.toNat - '0'.toNat)
  else if 'a' ≤ c ∧ c ≤ 'f' then some (c.toNat - 'a'.toNat + 10)
  else if 'A' ≤ c ∧ c ≤ 'F' then some (c.toNat - 'A'.toNat + 10)
  else none

/-- A hexadecimal digit. -/
def isHexDigit (c : Char) : Bool := (hexDigit? c).isSome

/-! ## Escapes -/

/-- The number in the braces of an escape, and what follows them. `value` is what the digits so far
amount to, if there are any. -/
def bracedCode? (value : Option Nat) : List Char → Option (Nat × List Char)
  | [] => none
  | c :: rest =>
    if c == '\x7d' then value.map (·, rest)
    else do
      let value := value.getD 0 * 16 + (← hexDigit? c)
      if value > 0x10FFFF then none else bracedCode? (some value) rest

/-- The code of an escape whose `\u` has been read, and what follows it. -/
def escapedCode? : List Char → Option (Nat × List Char)
  | '\x7b' :: rest => bracedCode? none rest
  | a :: b :: c :: d :: rest => do
    let digits ← [a, b, c, d].mapM hexDigit?
    some (digits.foldl (fun n d => n * 16 + d) 0, rest)
  | _ => none

/-- What follows an escape whose backslash has been read, and whether the escape is well formed. In a
template a digit stands for nothing but the null character. -/
def afterEscape (inTemplate : Bool) : List Char → List Char × Bool
  | 'x' :: rest =>
    match rest with
    | a :: b :: more => if isHexDigit a && isHexDigit b then (more, true) else (rest, false)
    | _ => (rest, false)
  | 'u' :: rest =>
    match escapedCode? rest with
    | some (_, more) => (more, true)
    | none => (rest, false)
  -- a line break of two characters is one escape
  | '\r' :: '\n' :: rest => (rest, true)
  | '0' :: rest => (rest, !(inTemplate && rest.head?.any Char.isDigit))
  | c :: rest => (rest, !(inTemplate && c.isDigit))
  | [] => ([], false)

/-! ## Strings, templates, regular expressions -/

/-- What follows a string, from inside it on. `fuel` bounds the number of its characters. -/
def afterString? (quote : Char) : Nat → List Char → Option (List Char)
  | 0, _ => none
  | _, [] => none
  | fuel + 1, c :: rest =>
    if c == quote then some rest
    else if c == '\\' then
      let (rest, wellFormed) := afterEscape false rest
      if wellFormed then afterString? quote fuel rest else none
    else if c == '\n' || c == '\r' then none
    else afterString? quote fuel rest

/-- The end of a chunk of a template: whether a substitution follows, whether the escapes of the chunk are well formed,
and what stands after it. -/
structure Chunk where
  continues : Bool
  wellFormed : Bool
  rest : List Char

/-- The end of a chunk, from inside it on. `fuel` bounds the number of its characters. -/
def chunk? : Nat → Bool → List Char → Option Chunk
  | 0, _, _ => none
  | _, _, [] => none
  | fuel + 1, wellFormed, c :: rest =>
    if c == '\x60' then some ⟨false, wellFormed, rest⟩
    else if c == '$' && rest.head? == some '\x7b' then some ⟨true, wellFormed, rest.drop 1⟩
    else if c == '\\' then
      let (rest, fine) := afterEscape true rest
      chunk? fuel (wellFormed && fine) rest
    else chunk? fuel wellFormed rest

/-- What follows the body of a regular expression, from inside it on. -/
def afterRegexBody? (inClass escaped : Bool) : List Char → Option (List Char)
  | [] => none
  | c :: rest =>
    -- a regular expression does not extend over a line
    if isLineEnd c then none
    else if escaped then afterRegexBody? inClass false rest
    -- a slash in a class does not end the expression
    else if c == '/' && !inClass then some rest
    else if c == '[' then afterRegexBody? true false rest
    else if c == ']' then afterRegexBody? false false rest
    else afterRegexBody? inClass (c == '\\') rest

/-- The flags at the front of a text. -/
def regexFlags (s : List Char) : List Char := s.takeWhile fun c => c.isAlphanum || c == '$' || c == '_'

/-- Whether each flag is known and occurs once. -/
def areFlags : List Char → Bool
  | [] => true
  | c :: rest => "dgimsuvy".toList.contains c && !rest.contains c && areFlags rest

/-! ## Numbers -/

/-- What follows a run of digits that may have a separator between two of them. -/
def afterDigits? (isDigit : Char → Bool) : List Char → Option (List Char)
  | [] => some []
  | '_' :: c :: rest => if isDigit c then afterDigits? isDigit rest else none
  | ['_'] => none
  | c :: rest => if isDigit c then afterDigits? isDigit rest else some (c :: rest)

/-- What follows a number, which neither a digit nor a name may follow at once. -/
def endNumber? (s : List Char) : Option (List Char) :=
  -- neither a name nor a digit may begin right behind a number
  if s.head?.any fun c => isNameStart c || c.isDigit then none else some s

/-- What follows digits of which there is at least one. -/
def afterSomeDigits? (isDigit : Char → Bool) (s : List Char) : Option (List Char) :=
  match s with
  | c :: rest => if isDigit c then afterDigits? isDigit rest else none
  | [] => none

/-- What follows an exponent, if there is one. -/
def afterExponent? : List Char → Option (List Char)
  | c :: rest =>
    if c == 'e' || c == 'E' then
      match rest with
      | '+' :: digits => afterSomeDigits? Char.isDigit digits
      | '-' :: digits => afterSomeDigits? Char.isDigit digits
      | digits => afterSomeDigits? Char.isDigit digits
    else some (c :: rest)
  | [] => some []

/-- What follows a number whose decimal point has been read. -/
def afterPoint? (s : List Char) : Option (List Char) := do
  let s ← if s.head?.any Char.isDigit then afterSomeDigits? Char.isDigit s else some s
  afterExponent? s >>= endNumber?

/-- What follows a number of another base, whose base has been read. -/
def afterRadix? (isDigit : Char → Bool) (s : List Char) : Option (List Char) := do
  match ← afterSomeDigits? isDigit s with
  | 'n' :: rest => endNumber? rest
  | s => endNumber? s

/-- What follows a number that starts with a zero and further digits. Unless one of them is an eight or a
nine it is an octal number, which has no fraction. -/
def afterOldOctal? (s : List Char) : Option (List Char) :=
  let digits := s.takeWhile Char.isDigit
  let rest := s.drop digits.length
  -- with an eight or a nine it is a decimal number all the same
  if digits.any ('8' ≤ ·) then
    match rest with
    | '.' :: rest => afterPoint? rest
    | rest => afterExponent? rest >>= endNumber?
  else endNumber? rest

/-- What follows a number that starts with the digit `first`. -/
def afterNumber? (first : Char) (s : List Char) : Option (List Char) :=
  match first, s with
  | '0', 'b' :: rest => afterRadix? (fun c => c == '0' || c == '1') rest
  | '0', 'B' :: rest => afterRadix? (fun c => c == '0' || c == '1') rest
  | '0', 'o' :: rest => afterRadix? (fun c => '0' ≤ c && c ≤ '7') rest
  | '0', 'O' :: rest => afterRadix? (fun c => '0' ≤ c && c ≤ '7') rest
  | '0', 'x' :: rest => afterRadix? isHexDigit rest
  | '0', 'X' :: rest => afterRadix? isHexDigit rest
  | _, s =>
    -- a zero in front of digits is the old form of an octal number
    if first == '0' && s.head?.any Char.isDigit then afterOldOctal? s
    else do
      match ← (if first == '0' then some s else afterDigits? Char.isDigit s) with
      | '.' :: rest => afterPoint? rest
      | 'n' :: rest => endNumber? rest
      | s => afterExponent? s >>= endNumber?

/-! ## Names -/

/-- The characters of a name, whether one of them is escaped, and what follows. `start` tells whether the
next character is the first one. An escape that stands for no character of a name is not well formed.
`fuel` bounds the number of characters. -/
def name? : Nat → Bool → List Char → Option (List Char × Bool × List Char)
  | 0, _, _ => none
  | _, _, [] => some ([], false, [])
  | fuel + 1, start, c :: rest =>
    let allowed := if start then isNameStart else isNamePart
    if c == '\\' then
      match rest with
      | 'u' :: more => do
        let (code, rest) ← escapedCode? more
        let c := Char.ofNat code
        if allowed c then
          let (cs, _, rest) ← name? fuel false rest
          some (c :: cs, true, rest)
        else none
      | _ => none
    else if allowed c then do
      let (cs, escaped, rest) ← name? fuel false rest
      some (c :: cs, escaped, rest)
    else some ([], false, c :: rest)

/-! ## Blanks and comments -/

/-- What a scan over blanks is in: a comment to the end of the line, a comment in `/*` and `*/`, or neither. -/
inductive Gap where
  | plain
  | line
  | block

/-- What follows blanks and comments, and whether a line ends in them. -/
def afterBlanks? : Gap → Bool → List Char → Option (Bool × List Char)
  | .plain, newLine, '/' :: '/' :: rest => afterBlanks? .line newLine rest
  | .plain, newLine, '/' :: '*' :: rest => afterBlanks? .block newLine rest
  | .plain, newLine, c :: rest =>
    if isLineEnd c then afterBlanks? .plain true rest
    else if isSpace c then afterBlanks? .plain newLine rest
    else some (newLine, c :: rest)
  | .line, newLine, c :: rest =>
    if isLineEnd c then afterBlanks? .plain true rest else afterBlanks? .line newLine rest
  | .block, newLine, '*' :: '/' :: rest => afterBlanks? .plain newLine rest
  | .block, newLine, c :: rest => afterBlanks? .block (newLine || isLineEnd c) rest
  -- a block comment has to end, a line comment need not
  | .block, _, [] => none
  | _, newLine, [] => some (newLine, [])

end WidgetTemplates.Script.Grammar
