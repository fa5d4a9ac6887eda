import WidgetTemplates.Markup.Reference
import WidgetTemplates.Markup.Token
import WidgetTemplates.Text.Blank

/-!
# Scanning markup

The scanner of the HTML standard as a machine that takes one character at a time. Line ends are
normalised before (`normalizeNewlines`). A state that meets a character which belongs to the state before
it hands the character on at once, so every step takes exactly one character and a scan is a fold over
the text.

A character reference is read to its end before it is looked up. The characters after the longest name
are letters, digits or a semicolon, which no state a reference can stand in treats specially, so they are
passed on as text.
-/

namespace WidgetTemplates.Markup

/-- The text with every carriage return, alone or before a line feed, turned into a line feed. -/
def normalizeNewlines : List Char → List Char
  | [] => []
  | '\r' :: '\n' :: rest => '\n' :: normalizeNewlines rest
  | '\r' :: rest => '\n' :: normalizeNewlines rest
  | c :: rest => c :: normalizeNewlines rest

/-- How an attribute value is delimited: by quotes, or by white space and the end of the tag. -/
inductive Quoting where
  | double
  | single
  | none
deriving DecidableEq, Repr

/-- Where a character reference stands: in ordinary text, in the text of an element that knows references, or in an
attribute value. -/
inductive Place where
  | text
  | rawText
  | value (quoting : Quoting)
deriving DecidableEq, Repr

/-- Which identifier of a document type is being read. -/
inductive Identifier where
  | publicId
  | systemId
deriving DecidableEq, Repr

/-- What has been read last. -/
inductive State where
  | data
  | plain
  | raw (kind : RawText)
  | tagOpen
  | endTagOpen
  | tagName
  | rawLess (kind : RawText)
  | rawEndOpen (kind : RawText)
  | rawEndName (kind : RawText)
  | escapeStart
  | escapeStartDash
  | escapedDash (kind : RawText)
  | escapedDashDash (kind : RawText)
  | doubleEscapeStart
  | doubleEscapeEnd
  | beforeAttr
  | attrName
  | afterAttr
  | beforeValue
  | value (quoting : Quoting)
  | afterValue
  | selfClosing
  | bogusComment
  | declaration
  | commentStart
  | commentStartDash
  | comment
  | commentEndDash
  | commentEnd
  | commentEndBang
  | doctype
  | beforeDoctypeName
  | doctypeName
  | afterDoctypeName
  | afterDoctypeKeyword (which : Identifier)
  | beforeDoctypeId (which : Identifier)
  | doctypeId (which : Identifier) (delimiter : Char)
  | afterDoctypeId (which : Identifier)
  | bogusDoctype
  | cdata
  | cdataBracket
  | cdataEnd
  | reference (place : Place)
  | namedReference (place : Place)
  | numberStart (place : Place)
  | hexStart (place : Place) (mark : Char)
  | decimal (place : Place)
  | hex (place : Place)
deriving DecidableEq, Repr

/-- The scanner between two characters, with the tag, the attribute and the document type that are being read. Texts
that are being gathered are kept latest character first, and so are finished attributes and the tokens of the current
step. `buffer` gathers a name, a keyword or a reference, and `number` is that of a numeric reference. -/
structure Scanner where
  state : State := .data
  isEnd : Bool := false
  tagName : List Char := []
  attrs : List (String × String) := []
  attrName : List Char := []
  attrValue : List Char := []
  selfClosing : Bool := false
  buffer : List Char := []
  number : Nat := 0
  doctype : Doctype := ⟨none, none, none, false⟩
  lastStart : String := ""
  output : List Token := []

namespace Scanner

/-- Moves on to a state. -/
def goto (s : Scanner) (state : State) : Scanner := { s with state }

/-- Yields a token. -/
def emit (s : Scanner) (t : Token) : Scanner := { s with output := t :: s.output }

/-- Yields a character. -/
def emitChar (s : Scanner) (c : Char) : Scanner :=
  s.emit (if c == '\x00' then .nul else .char c)

/-- Yields several characters. -/
def emitChars (s : Scanner) (cs : List Char) : Scanner := cs.foldl emitChar s

/-- The character that replaces a forbidden one. -/
def replacement : Char := '\ufffd'

/-- White space inside a tag; carriage returns are gone by now. -/
def isTagSpace (c : Char) : Bool := c == ' ' || c == '\t' || c == '\n' || c == '\x0c'

/-- NUL replaced. -/
def cleaned (c : Char) : Char := if c == '\x00' then replacement else c

/-- Begins a tag whose name starts with the letter `c`. -/
def beginTag (s : Scanner) (isEnd : Bool) (c : Char) : Scanner :=
  { s with isEnd, tagName := [c.toLower], attrs := [], attrName := [], attrValue := [],
           selfClosing := false }

/-- Adds a character to the name of the tag. -/
def pushTagName (s : Scanner) (c : Char) : Scanner := { s with tagName := c :: s.tagName }

/-- Finishes the attribute being read. An attribute whose name has come before is dropped. -/
def finishAttr (s : Scanner) : Scanner :=
  let name := String.ofList s.attrName.reverse
  let cleared := { s with attrName := [], attrValue := [] }
  if s.attrName.isEmpty then s
  else if s.attrs.any (·.1 == name) then cleared
  else { cleared with attrs := (name, String.ofList s.attrValue.reverse) :: s.attrs }

/-- Begins an attribute whose name starts with `c`. -/
def beginAttr (s : Scanner) (c : Char) : Scanner :=
  { s.finishAttr with attrName := [(cleaned c).toLower], state := .attrName }

/-- Yields the tag being read and goes on with ordinary text. -/
def emitTag (s : Scanner) : Scanner :=
  let s := s.finishAttr
  let name := String.ofList s.tagName.reverse
  let tag : Tag := ⟨name, s.attrs.reverse, s.selfClosing⟩
  let s := { s with state := .data, attrs := [] }
  if s.isEnd then s.emit (.endTag tag) else { s with lastStart := name }.emit (.startTag tag)

/-- Whether the end tag being read closes the element whose text is scanned. -/
def closesLast (s : Scanner) : Bool := String.ofList s.tagName.reverse == s.lastStart

/-! ## Text -/

/-- Ordinary text. -/
def inData (s : Scanner) (c : Char) : Scanner :=
  if c == '&' then s.goto (.reference .text)
  else if c == '<' then s.goto .tagOpen
  else s.emitChar c

/-- Text of an element that is not scanned as markup. -/
def inRaw (kind : RawText) (s : Scanner) (c : Char) : Scanner :=
  -- a NUL is replaced in every such text
  if c == '\x00' then (s.goto (.raw kind)).emitChar replacement
  else
    match kind with
    | .references =>
      if c == '&' then s.goto (.reference .rawText)
      else if c == '<' then s.goto (.rawLess kind)
      else (s.goto (.raw kind)).emitChar c
    | .literal | .script =>
      if c == '<' then s.goto (.rawLess kind) else (s.goto (.raw kind)).emitChar c
    | .scriptEscaped =>
      if c == '-' then (s.goto (.escapedDash kind)).emitChar c
      else if c == '<' then s.goto (.rawLess kind)
      else (s.goto (.raw kind)).emitChar c
    | .scriptDoubleEscaped =>
      if c == '-' then (s.goto (.escapedDash kind)).emitChar c
      else if c == '<' then (s.goto (.rawLess kind)).emitChar c
      else (s.goto (.raw kind)).emitChar c

/-- After `<` in such text. -/
def afterRawLess (kind : RawText) (s : Scanner) (c : Char) : Scanner :=
  match kind with
  | .scriptEscaped =>
    if c == '/' then { s with state := .rawEndOpen kind, buffer := [] }
    else if c.isAlpha then
      ({ s with state := .doubleEscapeStart, buffer := [c.toLower] }.emitChar '<').emitChar c
    else inRaw kind (s.emitChar '<') c
  | .scriptDoubleEscaped =>
    if c == '/' then { s with state := .doubleEscapeEnd, buffer := [] }.emitChar c
    else inRaw kind s c
  | .script =>
    if c == '/' then { s with state := .rawEndOpen kind, buffer := [] }
    else if c == '!' then ((s.goto .escapeStart).emitChar '<').emitChar '!'
    else inRaw kind (s.emitChar '<') c
  | .references | .literal =>
    if c == '/' then { s with state := .rawEndOpen kind, buffer := [] }
    else inRaw kind (s.emitChar '<') c

/-- After `</` in such text. -/
def afterRawEndOpen (kind : RawText) (s : Scanner) (c : Char) : Scanner :=
  if c.isAlpha then { s.beginTag true c with state := .rawEndName kind, buffer := [c] }
  else inRaw kind (s.emitChars ['<', '/']) c

/-- In the name of an end tag in such text. -/
def inRawEndName (kind : RawText) (s : Scanner) (c : Char) : Scanner :=
  if s.closesLast && isTagSpace c then s.goto .beforeAttr
  else if s.closesLast && c == '/' then s.goto .selfClosing
  else if s.closesLast && c == '>' then s.emitTag
  else if c.isAlpha then { s.pushTagName c.toLower with buffer := c :: s.buffer }
  else inRaw kind (s.emitChars ('<' :: '/' :: s.buffer.reverse)) c

/-- Whether the gathered name, latest character first, is `script`. -/
def isScriptName (buffer : List Char) : Bool := buffer == ['t', 'p', 'i', 'r', 'c', 's']

/-- In a name that turns one kind of script text, `from`, into another, `into`, if it is `script`. -/
def inEscapeName (current into : RawText) (s : Scanner) (c : Char) : Scanner :=
  if isTagSpace c || c == '/' || c == '>' then
    (s.goto (.raw (if isScriptName s.buffer then into else current))).emitChar c
  else if c.isAlpha then { s with buffer := c.toLower :: s.buffer }.emitChar c
  else inRaw current s c

/-- After a dash in an escaped script. -/
def afterEscapedDash (kind : RawText) (s : Scanner) (c : Char) : Scanner :=
  if c == '-' then (s.goto (.escapedDashDash kind)).emitChar c else inRaw kind s c

/-- After two dashes or more in an escaped script. -/
def afterEscapedDashDash (kind : RawText) (s : Scanner) (c : Char) : Scanner :=
  if c == '-' then s.emitChar c
  else if c == '>' then (s.goto (.raw .script)).emitChar c
  else inRaw kind s c

/-! ## Tags -/

/-- In a comment that ends at the next `>`. -/
def inBogusComment (s : Scanner) (c : Char) : Scanner :=
  if c == '>' then (s.goto .data).emit .comment else s.goto .bogusComment

/-- After `<`. -/
def afterTagOpen (s : Scanner) (c : Char) : Scanner :=
  if c == '!' then { s with state := .declaration, buffer := [] }
  else if c == '/' then s.goto .endTagOpen
  else if c == '?' then inBogusComment s c
  else if c.isAlpha then (s.beginTag false c).goto .tagName
  else inData ((s.goto .data).emitChar '<') c

/-- After `</`. -/
def afterEndTagOpen (s : Scanner) (c : Char) : Scanner :=
  if c == '>' then (s.goto .data).emit .fault
  else if c.isAlpha then (s.beginTag true c).goto .tagName
  else inBogusComment s c

/-- In the name of a tag. -/
def inTagName (s : Scanner) (c : Char) : Scanner :=
  if isTagSpace c then s.goto .beforeAttr
  else if c == '/' then s.goto .selfClosing
  else if c == '>' then s.emitTag
  else s.pushTagName (cleaned c).toLower

/-- Before an attribute. -/
def beforeAttr (s : Scanner) (c : Char) : Scanner :=
  if isTagSpace c then s.goto .beforeAttr
  else if c == '/' then s.goto .selfClosing
  else if c == '>' then s.emitTag
  else s.beginAttr c

/-- In the name of an attribute. -/
def inAttrName (s : Scanner) (c : Char) : Scanner :=
  if isTagSpace c then s.goto .afterAttr
  else if c == '/' then s.goto .selfClosing
  else if c == '=' then s.goto .beforeValue
  else if c == '>' then s.emitTag
  else { s with attrName := (cleaned c).toLower :: s.attrName }

/-- After the name of an attribute. -/
def afterAttr (s : Scanner) (c : Char) : Scanner :=
  if isTagSpace c then s
  else if c == '/' then s.goto .selfClosing
  else if c == '=' then s.goto .beforeValue
  else if c == '>' then s.emitTag
  else s.beginAttr c

/-- Adds a character to the value of the attribute. -/
def pushValue (s : Scanner) (c : Char) : Scanner := { s with attrValue := c :: s.attrValue }

/-- In the value of an attribute. -/
def inValue (quoting : Quoting) (s : Scanner) (c : Char) : Scanner :=
  let s := s.goto (.value quoting)
  if c == '&' then s.goto (.reference (.value quoting))
  else
    match quoting with
    | .double => if c == '"' then s.goto .afterValue else s.pushValue (cleaned c)
    | .single => if c == '\'' then s.goto .afterValue else s.pushValue (cleaned c)
    | .none =>
      if isTagSpace c then s.goto .beforeAttr
      else if c == '>' then s.emitTag
      else s.pushValue (cleaned c)

/-- After the equals sign of an attribute. -/
def beforeValue (s : Scanner) (c : Char) : Scanner :=
  if isTagSpace c then s
  else if c == '"' then s.goto (.value .double)
  else if c == '\'' then s.goto (.value .single)
  else if c == '>' then s.emitTag
  else inValue .none s c

/-- After the closing quote of a value. -/
def afterValue (s : Scanner) (c : Char) : Scanner := beforeAttr s c

/-- After a slash in a tag. -/
def afterSlash (s : Scanner) (c : Char) : Scanner :=
  if c == '>' then { s with selfClosing := true }.emitTag else beforeAttr s c

/-! ## Comments and declarations -/

/-- In a comment. -/
def inComment (s : Scanner) (c : Char) : Scanner :=
  s.goto (if c == '-' then .commentEndDash else .comment)

/-- After the opening of a comment. -/
def afterCommentStart (s : Scanner) (c : Char) : Scanner :=
  if c == '-' then s.goto .commentStartDash
  else if c == '>' then (s.goto .data).emit .comment
  else s.goto .comment

/-- After the opening of a comment and a dash. -/
def afterCommentStartDash (s : Scanner) (c : Char) : Scanner :=
  if c == '-' then s.goto .commentEnd
  else if c == '>' then (s.goto .data).emit .comment
  else s.goto .comment

/-- After a dash in a comment. -/
def afterCommentDash (s : Scanner) (c : Char) : Scanner :=
  s.goto (if c == '-' then .commentEnd else .comment)

/-- After two dashes in a comment. -/
def afterCommentDashDash (s : Scanner) (c : Char) : Scanner :=
  if c == '>' then (s.goto .data).emit .comment
  else if c == '!' then s.goto .commentEndBang
  else if c == '-' then s
  else s.goto .comment

/-- After two dashes and an exclamation mark in a comment. -/
def afterCommentBang (s : Scanner) (c : Char) : Scanner :=
  if c == '-' then s.goto .commentEndDash
  else if c == '>' then (s.goto .data).emit .comment
  else s.goto .comment

/-- After `<!`: a comment, a document type, or, inside foreign elements, a CDATA section. -/
def inDeclaration (foreign : Bool) (s : Scanner) (c : Char) : Scanner :=
  let gathered := (c :: s.buffer).reverse
  let lowered := gathered.map Char.toLower
  let doctype := ['d', 'o', 'c', 't', 'y', 'p', 'e']
  let cdata := ['[', 'C', 'D', 'A', 'T', 'A', '[']
  if gathered == ['-', '-'] then s.goto .commentStart
  else if lowered == doctype then
    { s with state := .doctype, buffer := [], doctype := ⟨none, none, none, false⟩ }
  else if foreign && gathered == cdata then s.goto .cdata
  else if gathered == ['-'] || lowered.isPrefixOf doctype || (foreign && gathered.isPrefixOf cdata)
  then { s with buffer := c :: s.buffer }
  else inBogusComment s c

/-- Yields the document type being read. -/
def emitDoctype (s : Scanner) : Scanner := (s.goto .data).emit (.doctype s.doctype)

/-- Marks the document type as malformed. -/
def spoilDoctype (s : Scanner) : Scanner :=
  { s with doctype := { s.doctype with malformed := true } }

/-- In the rest of a malformed document type. -/
def inBogusDoctype (s : Scanner) (c : Char) : Scanner :=
  if c == '>' then s.emitDoctype else s.goto .bogusDoctype

/-- Before the name of a document type. -/
def beforeDoctypeName (s : Scanner) (c : Char) : Scanner :=
  if isTagSpace c then s.goto .beforeDoctypeName
  else if c == '>' then s.spoilDoctype.emitDoctype
  else { s with state := .doctypeName, buffer := [(cleaned c).toLower] }

/-- Ends the name of a document type. -/
def finishDoctypeName (s : Scanner) : Scanner :=
  { s with doctype := { s.doctype with name := some (String.ofList s.buffer.reverse) }, buffer := [] }

/-- In the name of a document type. -/
def inDoctypeName (s : Scanner) (c : Char) : Scanner :=
  if isTagSpace c then s.finishDoctypeName.goto .afterDoctypeName
  else if c == '>' then s.finishDoctypeName.emitDoctype
  else { s with buffer := (cleaned c).toLower :: s.buffer }

/-- After the name of a document type: one of the two keywords. -/
def afterDoctypeName (s : Scanner) (c : Char) : Scanner :=
  let gathered := (c.toLower :: s.buffer).reverse
  let publicWord := ['p', 'u', 'b', 'l', 'i', 'c']
  let systemWord := ['s', 'y', 's', 't', 'e', 'm']
  if s.buffer.isEmpty && isTagSpace c then s
  else if s.buffer.isEmpty && c == '>' then s.emitDoctype
  else if gathered == publicWord then { s with state := .afterDoctypeKeyword .publicId, buffer := [] }
  else if gathered == systemWord then { s with state := .afterDoctypeKeyword .systemId, buffer := [] }
  else if gathered.isPrefixOf publicWord || gathered.isPrefixOf systemWord then
    { s with buffer := c.toLower :: s.buffer }
  else inBogusDoctype s.spoilDoctype c

/-- Where an identifier may begin. -/
def beforeDoctypeId (which : Identifier) (s : Scanner) (c : Char) : Scanner :=
  if isTagSpace c then s.goto (.beforeDoctypeId which)
  else if c == '"' || c == '\'' then { s with state := .doctypeId which c, buffer := [] }
  else if c == '>' then s.spoilDoctype.emitDoctype
  else inBogusDoctype s.spoilDoctype c

/-- Ends an identifier. -/
def finishDoctypeId (which : Identifier) (s : Scanner) : Scanner :=
  let text := some (String.ofList s.buffer.reverse)
  match which with
  | .publicId => { s with doctype := { s.doctype with publicId := text } }
  | .systemId => { s with doctype := { s.doctype with systemId := text } }

/-- In an identifier. -/
def inDoctypeId (which : Identifier) (delimiter : Char) (s : Scanner) (c : Char) : Scanner :=
  if c == delimiter then (s.finishDoctypeId which).goto (.afterDoctypeId which)
  else if c == '>' then (s.finishDoctypeId which).spoilDoctype.emitDoctype
  else { s with buffer := cleaned c :: s.buffer }

/-- After an identifier; a public one may be followed by a system one. -/
def afterDoctypeId (which : Identifier) (s : Scanner) (c : Char) : Scanner :=
  if isTagSpace c then s
  else if c == '>' then s.emitDoctype
  else
    match which with
    | .publicId =>
      if c == '"' || c == '\'' then { s with state := .doctypeId .systemId c, buffer := [] }
      else inBogusDoctype s.spoilDoctype c
    | .systemId => inBogusDoctype s c

/-! ## CDATA sections -/

/-- In a CDATA section. -/
def inCdata (s : Scanner) (c : Char) : Scanner :=
  if c == ']' then s.goto .cdataBracket else (s.goto .cdata).emitChar c

/-- After a bracket in a CDATA section. -/
def afterCdataBracket (s : Scanner) (c : Char) : Scanner :=
  if c == ']' then s.goto .cdataEnd else inCdata (s.emitChar ']') c

/-- After two brackets in a CDATA section. -/
def afterCdataEnd (s : Scanner) (c : Char) : Scanner :=
  if c == '>' then s.goto .data
  else if c == ']' then s.emitChar ']'
  else inCdata (s.emitChars [']', ']']) c

/-! ## Character references -/

/-- Goes back to the place of the reference and passes text on. -/
def resolve (place : Place) (text : List Char) (s : Scanner) : Scanner :=
  match place with
  | .text => (s.goto .data).emitChars text
  | .rawText => (s.goto (.raw .references)).emitChars text
  | .value quoting => text.foldl pushValue (s.goto (.value quoting))

/-- Scans a character where the reference stood. -/
def resume (place : Place) (s : Scanner) (c : Char) : Scanner :=
  match place with
  | .text => inData s c
  | .rawText => inRaw .references s c
  | .value quoting => inValue quoting s c

/-- Ends a named reference before the character `next`, or at the end of the text. In an attribute a
name without semicolon is left alone when an equals sign, a letter or a digit follows it. -/
def finishNamed (place : Place) (next : Option Char) (s : Scanner) : Scanner :=
  let name := s.buffer.reverse
  match longestReference? name with
  | none => resolve place ('&' :: name) s
  | some (found, chars) =>
    let left := name.drop found.length
    let after := if left.isEmpty then next else left.head?
    let inValue := match place with
      | .value _ => true
      | _ => false
    let blocked := match after with
      | some c => c == '=' || c.isAlphanum
      | none => false
    if inValue && found.getLast? != some ';' && blocked then resolve place ('&' :: name) s
    else resolve place (chars ++ left) s

/-- In a named reference. -/
def inNamed (place : Place) (s : Scanner) (c : Char) : Scanner :=
  if c.isAlphanum then { s with buffer := c :: s.buffer }
  else if c == ';' then finishNamed place none { s with buffer := c :: s.buffer }
  else resume place (finishNamed place (some c) s) c

/-- Ends a numeric reference. -/
def finishNumber (place : Place) (terminated : Bool) (s : Scanner) : Scanner :=
  let (c, faulty) := numericReference s.number
  resolve place [c] (if terminated && !faulty then s else s.emit .fault)

/-- The value of a hexadecimal digit. -/
def hexDigit? (c : Char) : Option Nat :=
  if c.isDigit then some (c.toNat - 48)
  else if 'a' ≤ c ∧ c ≤ 'f' then some (c.toNat - 87)
  else if 'A' ≤ c ∧ c ≤ 'F' then some (c.toNat - 55)
  else none

/-- Adds a digit to the number of a reference, which need not grow beyond the largest code point. -/
def pushDigit (s : Scanner) (base digit : Nat) : Scanner :=
  { s with number := min (s.number * base + digit) 0x110000 }

/-- In a decimal reference. -/
def inDecimal (place : Place) (s : Scanner) (c : Char) : Scanner :=
  if c.isDigit then s.pushDigit 10 (c.toNat - 48)
  else if c == ';' then finishNumber place true s
  else resume place (finishNumber place false s) c

/-- In a hexadecimal reference. -/
def inHex (place : Place) (s : Scanner) (c : Char) : Scanner :=
  match hexDigit? c with
  | some d => s.pushDigit 16 d
  | none =>
    if c == ';' then finishNumber place true s else resume place (finishNumber place false s) c

/-- After `&#x`. -/
def afterHexMark (place : Place) (mark : Char) (s : Scanner) (c : Char) : Scanner :=
  match hexDigit? c with
  | some d => { s with state := .hex place, number := d }
  | none => resume place (resolve place ['&', '#', mark] (s.emit .fault)) c

/-- After `&#`. -/
def afterNumberSign (place : Place) (s : Scanner) (c : Char) : Scanner :=
  if c == 'x' || c == 'X' then s.goto (.hexStart place c)
  else if c.isDigit then { s with state := .decimal place, number := c.toNat - 48 }
  else resume place (resolve place ['&', '#'] (s.emit .fault)) c

/-- After `&`. -/
def afterAmpersand (place : Place) (s : Scanner) (c : Char) : Scanner :=
  if c == '#' then s.goto (.numberStart place)
  else if c.isAlphanum then { s with state := .namedReference place, buffer := [c] }
  else resume place (resolve place ['&'] s) c

/-! ## The machine -/

/-- Takes one character. `foreign` tells whether the innermost open element is a foreign one. -/
def step (foreign : Bool) (s : Scanner) (c : Char) : Scanner :=
  match s.state with
  | .data => inData s c
  | .plain => s.emitChar (cleaned c)
  | .raw kind => inRaw kind s c
  | .tagOpen => afterTagOpen s c
  | .endTagOpen => afterEndTagOpen s c
  | .tagName => inTagName s c
  | .rawLess kind => afterRawLess kind s c
  | .rawEndOpen kind => afterRawEndOpen kind s c
  | .rawEndName kind => inRawEndName kind s c
  | .escapeStart =>
    if c == '-' then (s.goto .escapeStartDash).emitChar c else inRaw .script s c
  | .escapeStartDash =>
    if c == '-' then (s.goto (.escapedDashDash .scriptEscaped)).emitChar c else inRaw .script s c
  | .escapedDash kind => afterEscapedDash kind s c
  | .escapedDashDash kind => afterEscapedDashDash kind s c
  | .doubleEscapeStart => inEscapeName .scriptEscaped .scriptDoubleEscaped s c
  | .doubleEscapeEnd => inEscapeName .scriptDoubleEscaped .scriptEscaped s c
  | .beforeAttr => beforeAttr s c
  | .attrName => inAttrName s c
  | .afterAttr => afterAttr s c
  | .beforeValue => beforeValue s c
  | .value quoting => inValue quoting s c
  | .afterValue => afterValue s c
  | .selfClosing => afterSlash s c
  | .bogusComment => inBogusComment s c
  | .declaration => inDeclaration foreign s c
  | .commentStart => afterCommentStart s c
  | .commentStartDash => afterCommentStartDash s c
  | .comment => inComment s c
  | .commentEndDash => afterCommentDash s c
  | .commentEnd => afterCommentDashDash s c
  | .commentEndBang => afterCommentBang s c
  | .doctype => beforeDoctypeName s c
  | .beforeDoctypeName => beforeDoctypeName s c
  | .doctypeName => inDoctypeName s c
  | .afterDoctypeName => afterDoctypeName s c
  | .afterDoctypeKeyword which => beforeDoctypeId which s c
  | .beforeDoctypeId which => beforeDoctypeId which s c
  | .doctypeId which delimiter => inDoctypeId which delimiter s c
  | .afterDoctypeId which => afterDoctypeId which s c
  | .bogusDoctype => inBogusDoctype s c
  | .cdata => inCdata s c
  | .cdataBracket => afterCdataBracket s c
  | .cdataEnd => afterCdataEnd s c
  | .reference place => afterAmpersand place s c
  | .namedReference place => inNamed place s c
  | .numberStart place => afterNumberSign place s c
  | .hexStart place mark => afterHexMark place mark s c
  | .decimal place => inDecimal place s c
  | .hex place => inHex place s c

/-- What the text still yields when it ends here; a tag that is not finished yields nothing. -/
def finish (s : Scanner) : Scanner :=
  -- what had been taken for markup is text after all, and a comment or a declaration is emitted as far as it came
  let s := match s.state with
    | .tagOpen => s.emitChar '<'
    | .endTagOpen => s.emitChars ['<', '/']
    | .rawLess .scriptDoubleEscaped => s
    | .rawLess _ => s.emitChar '<'
    | .rawEndOpen _ => s.emitChars ['<', '/']
    | .rawEndName _ => s.emitChars ('<' :: '/' :: s.buffer.reverse)
    | .bogusComment | .declaration | .commentStart | .commentStartDash | .comment
    | .commentEndDash | .commentEnd | .commentEndBang => s.emit .comment
    | .doctypeName => s.finishDoctypeName.spoilDoctype.emitDoctype
    | .doctype | .beforeDoctypeName | .afterDoctypeName | .afterDoctypeKeyword _
    | .beforeDoctypeId _ | .doctypeId _ _ | .afterDoctypeId _ => s.spoilDoctype.emitDoctype
    | .bogusDoctype => s.emitDoctype
    | .cdataBracket => s.emitChar ']'
    | .cdataEnd => s.emitChars [']', ']']
    | .reference place => resolve place ['&'] s
    | .namedReference place => finishNamed place none s
    | .numberStart place => resolve place ['&', '#'] s
    | .hexStart place mark => resolve place ['&', '#', mark] s
    | .decimal place | .hex place => finishNumber place false s
    | _ => s
  s.emit .stop

end Scanner

end WidgetTemplates.Markup
