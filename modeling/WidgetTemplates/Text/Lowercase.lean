import WidgetTemplates.Text.CaseTable
import WidgetTemplates.Text.Range

/-!
# Lower case

The full lower-case mapping of the Unicode standard, independent of language. Every character is mapped
on its own, with two exceptions: `İ` becomes two characters, and a capital sigma becomes the final form
`ς` at the end of a word, that is when a cased character stands before it and none after it, looking
past the characters that case rules ignore.
-/

namespace WidgetTemplates.Text

/-- The lower-case partner of one character, or the character itself. -/
def lowerChar (c : Char) : Char :=
  let n := c.toNat
  if n < 0x80 then c.toLower
  else
    match lowerRuns.find? fun r => r.first ≤ n && n ≤ r.last && (n - r.first) % r.step == 0 with
    | some r => Char.ofNat (n + r.shift).toNat
    | none => c

/-- Whether the first character that case rules do not ignore is cased. -/
def startsCased (s : List Char) : Bool :=
  match s.dropWhile (inRanges caseIgnorableRanges) with
  | c :: _ => inRanges casedRanges c
  | [] => false

/-- Lower case of a text whose preceding characters, latest first, are `before`. -/
def lowerFrom (before : List Char) : List Char → List Char
  | [] => []
  | c :: rest =>
    let lowered :=
      if c == 'Σ' then [if startsCased before && !startsCased rest then 'ς' else 'σ']
      else if c == 'İ' then ['i', '\u0307']
      else [lowerChar c]
    lowered ++ lowerFrom (c :: before) rest

/-- The text in lower case. -/
def lowercase (s : List Char) : List Char := lowerFrom [] s

end WidgetTemplates.Text
