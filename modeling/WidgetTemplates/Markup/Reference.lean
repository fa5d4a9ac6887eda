import WidgetTemplates.Markup.ReferenceTable
import WidgetTemplates.Text.Search

/-!
# Character references

What a named or a numeric character reference stands for. A named reference is the longest name of the
table that the text after the ampersand begins with; names from the early days of markup need no
semicolon.
-/

namespace WidgetTemplates.Markup

/-- The pieces of a text between the occurrences of a separator. -/
def pieces (separator : Char) : List Char → List (List Char)
  | [] => [[]]
  | c :: rest =>
    if c == separator then [] :: pieces separator rest
    else
      match pieces separator rest with
      | p :: ps => (c :: p) :: ps
      | [] => [[c]]

/-- A hexadecimal number in upper-case digits. -/
def hexNumber (digits : List Char) : Nat :=
  digits.foldl (fun n c => n * 16 + if c.isDigit then c.toNat - 48 else c.toNat - 55) 0

/-- The entries of a line of the table: names and the characters they stand for. -/
def readEntries (row : String) : List (List Char × List Char) :=
  (pieces ' ' row.toList).filterMap fun entry =>
    match pieces '=' entry with
    | [name, codes] => some (name, (pieces '+' codes).map fun d => Char.ofNat (hexNumber d))
    | _ => none

/-- The longest name at the front of the text and what it stands for. -/
def longestReference? (text : List Char) : Option (List Char × List Char) :=
  match text with
  | [] => none
  | c :: _ =>
    ((referenceRows c).flatMap readEntries).foldl
      (fun best entry =>
        if entry.1.isPrefixOf text then
          match best with
          | some b => if b.1.length < entry.1.length then some entry else best
          | none => some entry
        else best)
      none

/-- The characters that the numbers 128 to 159 stand for. -/
def windowsChars : List Nat :=
  [0x20AC, 0x81, 0x201A, 0x192, 0x201E, 0x2026, 0x2020, 0x2021, 0x2C6, 0x2030, 0x160, 0x2039, 0x152,
   0x8D, 0x17D, 0x8F, 0x90, 0x2018, 0x2019, 0x201C, 0x201D, 0x2022, 0x2013, 0x2014, 0x2DC, 0x2122,
   0x161, 0x203A, 0x153, 0x9D, 0x17E, 0x178]

/-- The character that a number stands for, and whether the number is a faulty one. -/
def numericReference (n : Nat) : Char × Bool :=
  if n > 0x10FFFF || n == 0 || (0xD800 ≤ n && n ≤ 0xDFFF) then ('\ufffd', true)
  else if 0x80 ≤ n && n ≤ 0x9F then (Char.ofNat (windowsChars.getD (n - 0x80) n), true)
  else
    let faulty := n ≤ 8 || n == 0xB || (0xD ≤ n && n ≤ 0x1F) || n == 0x7F
      || (0xFDD0 ≤ n && n ≤ 0xFDEF) || n % 0x10000 ≥ 0xFFFE
    (Char.ofNat n, faulty)

end WidgetTemplates.Markup
