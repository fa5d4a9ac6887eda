import WidgetTemplates.Script.Grammar.Token

/-!
# Reading tokens

A reader works on a cursor, which holds the next token, under a mode, which says what the surroundings
allow. There are two ways to object to a text. A failure ends the reading, or the trial that it is part of.
A flaw is noted in the cursor and the reading goes on; it stays noted unless a trial is given up.
-/

namespace WidgetTemplates.Script.Grammar

/-- What the surroundings of an expression or statement allow: `in`, `await` and `yield` as operators, and a function to
return from. While a decorator is being read, `[` starts no member. -/
structure Mode where
  inOperator : Bool := true
  awaiting : Bool := false
  yielding : Bool := false
  returning : Bool := false
  decorating : Bool := false

/-- A place in a text: the next token, whether a line ends before it, the text from it on and the text after it.
It is flawed if there is a flaw before it or in the next token. `unsettled` counts the defaults of shorthand
members that no pattern has settled, and `slashes` is what the slashes before it were taken for. -/
structure Cursor where
  token : Token
  newLine : Bool
  here : List Char
  rest : List Char
  flawed : Bool := false
  unsettled : Nat := 0
  slashes : List Slash := []

/-- The cursor before the first token of `s`, all else being as in `c`. -/
def Cursor.moveTo (c : Cursor) (s : List Char) : Cursor :=
  match afterBlanks? .plain false s with
  | none => { c with token := .invalid, newLine := false, here := [], rest := [], flawed := true }
  | some (newLine, here) =>
    let next := scan here
    { c with
      token := next.token, newLine, here, rest := next.rest
      flawed := c.flawed || next.token == .invalid }

/-- The cursor before the first token of a text. -/
def Cursor.start (s : List Char) : Cursor := Cursor.moveTo ⟨.finish, false, [], [], false, 0, []⟩ s

/-- A reader. -/
abbrev Reader := ReaderT Mode (StateT Cursor Option)

namespace Reader

/-! ## The next token -/

/-- The next token. -/
def peek : Reader Token := do return (← get).token

/-- Whether a line ends before the next token. -/
def newLine : Reader Bool := do return (← get).newLine

/-- Whether the next token is this punctuator. -/
def isMark (m : String) : Reader Bool := do return (← peek) == .mark m

/-- Whether the next token is this word. -/
def isWord (w : String) : Reader Bool := do return (← peek).isWord w

/-- Notes a flaw. -/
def flaw : Reader Unit := modify fun c => { c with flawed := true }

/-- Notes a flaw if the condition holds. -/
def flawIf (condition : Bool) : Reader Unit := if condition then flaw else pure ()

/-- Goes past the next token. -/
def skip : Reader Unit := modify fun c => { c with slashes := c.slashes ++ c.token.slashes }.moveTo c.rest

/-- Goes past a token that is not taken as a name. A word with an escape is a flaw. -/
def advance : Reader Unit := do
  match ← peek with
  | .word _ escaped => flawIf escaped
  | _ => pure ()
  skip

/-- Goes past this punctuator if it comes next. -/
def eat (m : String) : Reader Bool := do
  if ← isMark m then
    advance
    return true
  else return false

/-- Goes past this word if it comes next. -/
def eatWord (w : String) : Reader Bool := do
  if ← isWord w then
    advance
    return true
  else return false

/-- Goes past this punctuator, which has to come next. -/
def expect (m : String) : Reader Unit := do
  if ← eat m then pure () else failure

/-! ## Trials -/

/-- Looks ahead: what the reader says, or false if it fails. -/
def ahead (r : Reader Bool) : Reader Bool := fun mode c =>
  match r mode c with
  | some (b, _) => some (b, c)
  | none => some (false, c)

/-- Tries a reader; if it fails, the cursor stays. -/
def attempt? {α : Type} (r : Reader α) : Reader (Option α) := fun mode c =>
  match r mode c with
  | some (a, c) => some (some a, c)
  | none => some (none, c)

/-! ## Modes -/

/-- What the mode says. -/
def mode : Reader Mode := read

/-- Reads under another mode. -/
def under {α : Type} (f : Mode → Mode) (r : Reader α) : Reader α := withReader f r

/-- Reads with `in` as an operator. -/
def enclosed {α : Type} (r : Reader α) : Reader α := under (fun m => { m with inOperator := true }) r

/-! ## Repetition -/

/-- Applies a step as often as it yields something. Every step but the last goes past a token, so there
are no more of them than characters. -/
def iterate {α : Type} (step : α → Reader (Option α)) (a : α) : Reader α := do
  go ((← get).here.length + 2) a
where
  /-- At most the given number of steps. -/
  go : Nat → α → Reader α
    | 0, _ => failure
    | n + 1, a => do
      match ← step a with
      | some b => go n b
      | none => return a

/-- Items that have been read, the last one first, and whether a comma follows them. -/
structure Items (α : Type) where
  reversed : List α := []
  trailing : Bool := false

/-- Reads one more item. -/
def nextItem {α : Type} (close : String) (item : Reader α) (acc : Items α) :
    Reader (Option (Items α)) := do
  if acc.trailing || (← isMark close) then return none
  else if acc.reversed.isEmpty then return some { reversed := [← item] }
  else
    expect ","
    if ← isMark close then return some { acc with trailing := true }
    else return some { reversed := (← item) :: acc.reversed }

/-- Reads items with commas between them up to a closing punctuator, which is left to be read: the items,
and whether a comma follows the last one. -/
def items {α : Type} (close : String) (item : Reader α) : Reader (List α × Bool) := do
  let acc ← iterate (nextItem close item) {}
  return (acc.reversed.reverse, acc.trailing)

/-! ## Names -/

/-- Goes past a name. `await` and `yield` are flaws where they are operators. -/
def name : Reader Unit := do
  let m ← mode
  if !(← peek).isName then failure
  flawIf ((← isWord "await") && m.awaiting)
  flawIf ((← isWord "yield") && m.yielding)
  skip

/-- Goes past a name or a reserved word. -/
def anyWord : Reader Unit := do
  match ← peek with
  | .word _ _ => skip
  | _ => failure

/-! ## Statement ends -/

/-- Whether a statement may end without a semicolon before the next token. -/
def canEnd : Reader Bool := do
  match ← peek with
  | .mark m => return m == ";" || m == "\x7d" || (← newLine)
  | .finish => return true
  | _ => newLine

/-- Goes past the end of a statement. -/
def endStatement : Reader Unit := do
  if ← eat ";" then pure ()
  else if ← canEnd then pure ()
  else failure

/-! ## Literals that depend on what is expected -/

/-- Goes past a regular expression, whose first slash comes next. -/
def regex : Reader Unit := do
  let c ← get
  match afterRegexBody? false false (c.here.drop 1) with
  | none => failure
  | some rest =>
    let flags := regexFlags rest
    flawIf !(areFlags flags)
    modify fun c => { c with slashes := c.slashes ++ [Slash.startsRegex] }.moveTo (rest.drop flags.length)

/-- Takes the closing brace that comes next as the end of a substitution: the rest of the template comes
next. -/
def resumeTemplate : Reader Unit := do
  if !(← isMark "\x7d") then failure
  let c ← get
  match chunk? (c.rest.length + 1) true c.rest with
  | none => failure
  | some k => set { c with token := .template k.continues k.wellFormed, newLine := false, rest := k.rest }

end Reader

end WidgetTemplates.Script.Grammar
