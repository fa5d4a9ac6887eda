import WidgetTemplates.Json.Basic

/-!
# Reading JSON text

A reader for the JSON grammar with ordered objects. Three limits belong to the format as read here:
containers nest at most 127 deep, an escaped surrogate needs its partner, and a number must not exceed
the largest finite floating-point value.

A number's significand is gathered as a 64-bit word. Digits of the fraction that no longer fit are
dropped, digits of the integer part that no longer fit count as a power of ten.
-/

namespace WidgetTemplates.Json.Reader

/-- What follows the blanks of the JSON grammar. -/
def skipBlanks (s : List Char) : List Char :=
  s.dropWhile fun c => c == ' ' || c == '\n' || c == '\t' || c == '\r'

/-- The value of a hexadecimal digit. -/
def hexValue? (c : Char) : Option Nat :=
  if '0' ≤ c ∧ c ≤ '9' then some (c.toNat - '0'.toNat)
  else if 'a' ≤ c ∧ c ≤ 'f' then some (c.toNat - 'a'.toNat + 10)
  else if 'A' ≤ c ∧ c ≤ 'F' then some (c.toNat - 'A'.toNat + 10)
  else none

/-- Four hexadecimal digits and the rest. -/
def hexUnit? : List Char → Option (Nat × List Char)
  | a :: b :: c :: d :: rest => do
    let a ← hexValue? a
    let b ← hexValue? b
    let c ← hexValue? c
    let d ← hexValue? d
    some (((a * 16 + b) * 16 + c) * 16 + d, rest)
  | _ => none

/-- The character of an escape whose `\u` has been read, and the rest. -/
def unicodeEscape? (s : List Char) : Option (Char × List Char) := do
  let (high, rest) ← hexUnit? s
  if 0xDC00 ≤ high ∧ high ≤ 0xDFFF then none
  else if 0xD800 ≤ high ∧ high ≤ 0xDBFF then
    match rest with
    | '\\' :: 'u' :: rest => do
      let (low, rest) ← hexUnit? rest
      if 0xDC00 ≤ low ∧ low ≤ 0xDFFF then
        some (Char.ofNat (0x10000 + (high - 0xD800) * 0x400 + (low - 0xDC00)), rest)
      else none
    | _ => none
  else some (Char.ofNat high, rest)

/-- The rest of a string after its opening quote: the text and what follows the closing quote. -/
def stringBody? : Nat → List Char → List Char → Option (String × List Char)
  | 0, _, _ => none
  | fuel + 1, done, s =>
    match s with
    | [] => none
    | '"' :: rest => some (String.ofList done.reverse, rest)
    | '\\' :: 'u' :: rest =>
      match unicodeEscape? rest with
      | some (c, rest) => stringBody? fuel (c :: done) rest
      | none => none
    | '\\' :: e :: rest =>
      -- the short escapes; any other character may not be escaped
      let escaped : Option Char :=
        if e == '"' || e == '\\' || e == '/' then some e
        else if e == 'b' then some '\x08'
        else if e == 'f' then some '\x0c'
        else if e == 'n' then some '\n'
        else if e == 'r' then some '\r'
        else if e == 't' then some '\t'
        else none
      match escaped with
      | some c => stringBody? fuel (c :: done) rest
      | none => none
    | c :: rest => if c.toNat < 0x20 || c == '\\' then none else stringBody? fuel (c :: done) rest

/-! ## Numbers -/

/-- The largest significand that is gathered, the largest 64-bit word. -/
def wordMax : Nat := 0xFFFFFFFFFFFFFFFF

/-- The value of an ASCII digit. -/
def digitValue (c : Char) : Nat := c.toNat - '0'.toNat

/-- The digits at the front and the rest. -/
def spanDigits (s : List Char) : List Char × List Char := s.span Char.isDigit

/-- Adds digits to a significand as long as it fits a word: the significand and the digits left. -/
def gather : Nat → List Char → Nat × List Char
  | n, [] => (n, [])
  | n, c :: rest =>
    let next := n * 10 + digitValue c
    if next ≤ wordMax then gather next rest else (n, c :: rest)

/-- The exponent part after its `e`: its value, or nothing at all without a digit. -/
def exponent? (s : List Char) : Option (Int × List Char) :=
  let (negative, s) := match s with
    | '+' :: rest => (false, rest)
    | '-' :: rest => (true, rest)
    | _ => (false, s)
  match spanDigits s with
  | ([], _) => none
  | (digits, rest) =>
    let n := digits.foldl (fun n c => n * 10 + digitValue c) 0
    some (if negative then -(n : Int) else n, rest)

/-- A floating-point number from its parts. An exponent that no 32-bit word holds takes a significand
other than zero out of range upward, and to zero downward. -/
def floatOf (negative : Bool) (significand : Nat) (shift e : Int) : Option Json :=
  if 0x80000000 ≤ e then
    if significand == 0 then some (.float ⟨negative, 0, -1074⟩) else none
  else if e ≤ -0x80000000 then some (.float ⟨negative, 0, -1074⟩)
  else (Binary64.ofDecimal? negative significand (shift + e)).map .float

/-- What may follow the digits of a number: an exponent, or the end of the number. -/
def afterDigits? (negative : Bool) (significand : Nat) (shift : Int) (s : List Char) :
    Option (Json × List Char) :=
  match s with
  | c :: rest =>
    if c == 'e' || c == 'E' then do
      let (e, rest) ← exponent? rest
      let x ← floatOf negative significand shift e
      some (x, rest)
    else (floatOf negative significand shift 0).map (·, s)
  | [] => (floatOf negative significand shift 0).map (·, s)

/-- A number whose sign has been read. -/
def unsigned? (negative : Bool) (s : List Char) : Option (Json × List Char) :=
  match spanDigits s with
  | ([], _) => none
  | (digits, rest) =>
    -- a leading zero stands alone
    if digits.length > 1 && digits.head? == some '0' then none
    else
      -- digits that do not fit count as a shift of the decimal point
      let (significand, dropped) := gather 0 digits
      let shift : Int := dropped.length
      match rest with
      | '.' :: fraction =>
        match spanDigits fraction with
        | ([], _) => none
        | (places, rest) =>
          let (significand, left) := gather significand places
          afterDigits? negative significand (shift - (places.length - left.length : Nat)) rest
      | c :: _ =>
        if c == 'e' || c == 'E' then afterDigits? negative significand shift rest
        else whole negative significand shift rest
      | [] => whole negative significand shift rest
where
  /-- A number without fraction and exponent: an integer when a 64-bit word holds it. -/
  whole (negative : Bool) (significand : Nat) (shift : Int) (rest : List Char) :
      Option (Json × List Char) :=
    if shift != 0 then (floatOf negative significand shift 0).map (·, rest)
    else if !negative then some (.int significand, rest)
    -- minus zero, and what is below the smallest integer, are floating-point numbers
    else if significand == 0 || significand > 0x8000000000000000 then
      (floatOf true significand 0 0).map (·, rest)
    else some (.int (-(significand : Int)), rest)

/-- A number. -/
def number? (s : List Char) : Option (Json × List Char) :=
  match s with
  | '-' :: rest => unsigned? true rest
  | _ => unsigned? false s

/-! ## Values -/

mutual

/-- A value and what follows it. `depth` is how many more containers may open. -/
def value? : Nat → Nat → List Char → Option (Json × List Char)
  | 0, _, _ => none
  | fuel + 1, depth, s =>
    match skipBlanks s with
    | [] => none
    | '"' :: rest => (stringBody? (rest.length + 1) [] rest).map fun (t, rest) => (.string t, rest)
    | '[' :: rest =>
      if depth ≤ 1 then none
      else
        match skipBlanks rest with
        | ']' :: rest => some (.array [], rest)
        | rest => (items? fuel (depth - 1) rest).map fun (items, rest) => (.array items, rest)
    | '\x7b' :: rest =>
      if depth ≤ 1 then none
      else
        match skipBlanks rest with
        | '\x7d' :: rest => some (.object [], rest)
        | rest => (members? fuel (depth - 1) [] rest).map fun (ms, rest) => (.object ms, rest)
    | 't' :: 'r' :: 'u' :: 'e' :: rest => some (.bool true, rest)
    | 'f' :: 'a' :: 'l' :: 's' :: 'e' :: rest => some (.bool false, rest)
    | 'n' :: 'u' :: 'l' :: 'l' :: rest => some (.null, rest)
    | s => number? s

/-- The items of an array up to its closing bracket. -/
def items? : Nat → Nat → List Char → Option (List Json × List Char)
  | 0, _, _ => none
  | fuel + 1, depth, s =>
    match value? fuel depth s with
    | none => none
    | some (item, rest) =>
      match skipBlanks rest with
      | ',' :: rest => (items? fuel depth rest).map fun (items, rest) => (item :: items, rest)
      | ']' :: rest => some ([item], rest)
      | _ => none

/-- The members of an object up to its closing brace, after the members `done`. -/
def members? : Nat → Nat → Members → List Char → Option (Members × List Char)
  | 0, _, _, _ => none
  | fuel + 1, depth, done, s =>
    match skipBlanks s with
    | '"' :: rest =>
      match stringBody? (rest.length + 1) [] rest with
      | none => none
      | some (key, rest) =>
        match skipBlanks rest with
        | ':' :: rest =>
          match value? fuel depth rest with
          | none => none
          | some (value, rest) =>
            let done := Members.insert key value done
            match skipBlanks rest with
            | ',' :: rest => members? fuel depth done rest
            | '\x7d' :: rest => some (done, rest)
            | _ => none
        | _ => none
    | _ => none

end

end Reader

/-- The value that a text denotes. -/
def read? (s : String) : Option Json :=
  let chars := s.toList
  match Reader.value? (2 * chars.length + 2) 128 chars with
  | some (value, rest) => if (Reader.skipBlanks rest).isEmpty then some value else none
  | none => none

end WidgetTemplates.Json
