import WidgetTemplates.Script.Grammar.Lexeme

/-!
# Tokens of a script

The text of a script is cut into tokens while it is read, since what a slash or a closing brace means
depends on what is expected. Names and reserved words are one kind of token. A text that is no token is an
invalid one.
-/

namespace WidgetTemplates.Script

/-- What a slash is that starts no comment: an operator, or a part of one, or the start of a regular expression. -/
inductive Slash where
  | divides
  | startsRegex
deriving DecidableEq, Repr

namespace Grammar

/-- A token.
* `finish` is the end of the text, `invalid` a text that is no token.
* A `word` is a name or a reserved word, `escaped` when it is written with an escape; a `privateWord` follows a number
sign.
* A `template` is one chunk of a template literal: whether a substitution follows it, and whether its escapes are well
formed. -/
inductive Token where
  | finish
  | invalid
  | word (text : String) (escaped : Bool)
  | privateWord (text : String)
  | number
  | string
  | template (continues wellFormed : Bool)
  | mark (text : String)
deriving DecidableEq, Repr, Inhabited

/-- The words that are never names. -/
def reservedWords : List String :=
  ["break", "case", "catch", "class", "const", "continue", "debugger", "default", "delete", "do", "else",
   "enum", "export", "extends", "false", "finally", "for", "function", "if", "import", "in",
   "instanceof", "new", "null", "return", "super", "switch", "this", "throw", "true", "try", "typeof",
   "var", "void", "while", "with"]

/-- The punctuators. One that begins with another comes before it. -/
def marks : List String :=
  [">>>=", "...", "===", "!==", "**=", "<<=", ">>=", ">>>", "&&=", "||=", "??=", "=>", "==", "!=", "<=",
   ">=", "&&", "||", "??", "?.", "++", "--", "+=", "-=", "*=", "/=", "%=", "&=", "|=", "^=", "<<", ">>",
   "**", "\x7b", "\x7d", "(", ")", "[", "]", ";", ",", "<", ">", "+", "-", "*", "/", "%", "&", "|", "^",
   "!", "~", "?", ":", "=", ".", "@"]

/-- The punctuator at the front of a text. A question mark and a point before a digit are two tokens. -/
def mark? (s : List Char) : Option String :=
  marks.find? fun m => m.toList.isPrefixOf s && !(m == "?." && (s.drop 2).head?.any Char.isDigit)

/-- A token with what follows it. -/
structure Scanned where
  token : Token
  rest : List Char

/-- The token at the front of a text that starts with no blank. A number sign alone, and whatever is not
well formed, is invalid. -/
def scan (s : List Char) : Scanned :=
  let invalid : Scanned := ⟨.invalid, []⟩
  let after (token : Token) (rest : Option (List Char)) : Scanned :=
    match rest with
    | some rest => ⟨token, rest⟩
    | none => invalid
  match s with
  | [] => ⟨.finish, []⟩
  | c :: rest =>
    -- a name may start with an escape
    if isNameStart c || c == '\\' then
      match name? (s.length + 1) true s with
      | some (cs, escaped, rest) => ⟨.word (String.ofList cs) escaped, rest⟩
      | none => invalid
    else if c == '#' then
      match name? (rest.length + 1) true rest with
      | some (d :: cs, _, rest) => ⟨.privateWord (String.ofList (d :: cs)), rest⟩
      | _ => invalid
    else if c.isDigit then after .number (afterNumber? c rest)
    -- a number may start with its point
    else if c == '.' && rest.head?.any Char.isDigit then after .number (afterPoint? rest)
    else if c == '"' || c == '\'' then after .string (afterString? c s.length rest)
    else if c == '\x60' then
      match chunk? s.length true rest with
      | some k => ⟨.template k.continues k.wellFormed, k.rest⟩
      | none => invalid
    else
      match mark? s with
      | some m => ⟨.mark m, s.drop m.length⟩
      | none => invalid

namespace Token

/-- Whether a token is this word. -/
def isWord (text : String) : Token → Bool
  | .word t _ => t == text
  | _ => false

/-- Whether a token is a name. -/
def isName : Token → Bool
  | .word t _ => !reservedWords.contains t
  | _ => false

/-- Whether a token is a literal or a word that is no operator: what makes `await` and `yield` in front of
it operators. -/
def startsOperand : Token → Bool
  | .word t _ => t != "in" && t != "instanceof"
  | .number | .string => true
  | _ => false

/-- Whether a modifier may stand in front of a token. -/
def followsModifier : Token → Bool
  | .word _ _ | .privateWord _ | .number | .string => true
  | .mark m => ["[", "\x7b", "*", "..."].contains m
  | _ => false

/-- What the slashes in a token are where it is read as a token. -/
def slashes : Token → List Slash
  | .mark "/" | .mark "/=" => [.divides]
  | _ => []

end Token

end Grammar

end WidgetTemplates.Script
