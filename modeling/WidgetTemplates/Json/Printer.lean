import WidgetTemplates.Json.Basic
import WidgetTemplates.Text.Search

/-!
# Compact JSON text

Values are printed without blanks. A text is quoted with the shortest escapes: two-character escapes
where JSON has them, `\u` and four lower-case hexadecimal digits for the other control characters, and
every other character as itself. A floating-point number is printed with the fewest digits that read
back, positionally from `10 ^ -5` up to below `10 ^ 16`, always with a point there, and with an exponent
otherwise.
-/

namespace WidgetTemplates.Json

/-- The four lower-case hexadecimal digits of a code unit. -/
def hex4 (n : Nat) : List Char :=
  [n / 4096 % 16, n / 256 % 16, n / 16 % 16, n % 16].map Nat.digitChar

/-- A character inside a JSON string. -/
def escapeChar (c : Char) : List Char :=
  if c == '"' then ['\\', '"']
  else if c == '\\' then ['\\', '\\']
  else if c == '\x08' then ['\\', 'b']
  else if c == '\x0c' then ['\\', 'f']
  else if c == '\n' then ['\\', 'n']
  else if c == '\r' then ['\\', 'r']
  else if c == '\t' then ['\\', 't']
  else if c.toNat < 0x20 then '\\' :: 'u' :: hex4 c.toNat
  else [c]

/-- A text as a JSON string. -/
def quote (s : String) : String := "\"" ++ Text.expand escapeChar s ++ "\""

/-- Decimal digits `digits · 10 ^ e` in the layout of floating-point numbers. -/
def layout (digits : List Char) (e : Int) : List Char :=
  let count : Int := digits.length
  -- the place of the decimal point, counted from the first digit
  let point := count + e
  if 0 ≤ e ∧ point ≤ 16 then digits ++ List.replicate e.toNat '0' ++ ['.', '0']
  else if 0 < point ∧ point ≤ 16 then digits.take point.toNat ++ '.' :: digits.drop point.toNat
  else if -5 < point ∧ point ≤ 0 then '0' :: '.' :: (List.replicate (-point).toNat '0' ++ digits)
  else
    let mantissa := match digits with
      | [d] => [d]
      | d :: more => d :: '.' :: more
      | [] => []
    mantissa ++ 'e' :: (toString (point - 1)).toList

/-- A floating-point number. -/
def floatText (x : Binary64) : String :=
  let (d, e) := x.shortest
  let body := if d == 0 then ['0', '.', '0'] else layout (Nat.toDigits 10 d) e
  String.ofList (if x.negative then '-' :: body else body)

mutual

/-- The compact text of a value. -/
def print : Json → String
  | .null => "null"
  | .bool b => if b then "true" else "false"
  | .int n => toString n
  | .float x => floatText x
  | .string s => quote s
  | .array items => "[" ++ printItems items ++ "]"
  | .object members => "\x7b" ++ printMembers members ++ "\x7d"

/-- The items of an array, separated by commas. -/
def printItems : List Json → String
  | [] => ""
  | [item] => print item
  | item :: rest => print item ++ "," ++ printItems rest

/-- The members of an object, separated by commas. -/
def printMembers : List (String × Json) → String
  | [] => ""
  | [(key, value)] => quote key ++ ":" ++ print value
  | (key, value) :: rest => quote key ++ ":" ++ print value ++ "," ++ printMembers rest

end

end WidgetTemplates.Json
