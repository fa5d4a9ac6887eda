import WidgetTemplates.Script.Grammar.Function
import WidgetTemplates.Script.Grammar.ClassBody

/-!
# Statements

The statements in the body of a function. Declarations, other than those of functions and with `var`, may
not stand alone under a condition, a loop or a label.
-/

namespace WidgetTemplates.Script.Grammar

open Reader

namespace Rules

/-! ## Declarations -/

/-- One variable of a declaration. Outside the head of a loop a constant and a pattern need a value. -/
def declarator (r : Rules) (isConst inHead : Bool) : Reader Unit := do
  let isName ← r.pattern
  if ← eat "=" then
    let _ ← r.assignment
  else flawIf (!inHead && (isConst || !isName))

/-- The variables of a declaration, from its word on. -/
def declaration (r : Rules) (inHead : Bool) : Reader Unit := do
  let isConst := (← isWord "const") || (← isWord "using")
  advance
  r.declarator isConst inHead
  iterate
    (fun _ => do
      if ← eat "," then
        r.declarator isConst inHead
        return some ()
      else return none)
    ()

/-- A declaration as a statement. -/
def declarationStatement (r : Rules) : Reader Unit := do
  r.declaration false
  endStatement

/-! ## Expression statements -/

/-- An expression as a statement, or a label with its statement. -/
def expressionStatement (r : Rules) : Reader Unit := do
  let shape ← r.expression
  if shape.isName && (← isMark ":") then
    advance
    r.statement true
  else endStatement

/-- What a statement with `let` is: an expression in which the word is a name, or a declaration. -/
inductive LetUse where
  | expression
  | declares

/-- What a statement with `let`, which comes next, is. -/
def letUse (alone : Bool) : Reader LetUse := fun mode c =>
  let look : Reader LetUse := do
    skip
    match ← peek with
    | .mark m =>
      if m == "\x7b" then return if alone then .expression else .declares
      else if m == "[" then return .declares
      else return .expression
    | .word text _ =>
      -- where no declaration may stand, `let` in front of a name is a name itself
      return if alone || text == "in" || text == "instanceof" then .expression else .declares
    | _ => return if alone then .expression else .declares
  (look mode c).map fun (use, _) => (use, c)

/-- A statement with `let`. -/
def letStatement (r : Rules) (alone : Bool) : Reader Unit := do
  match ← letUse alone with
  | .expression => r.expressionStatement
  | .declares =>
    flawIf alone
    r.declarationStatement

/-! ## Conditions and loops -/

/-- A condition with its branches. -/
def ifStatement (r : Rules) : Reader Unit := do
  advance
  r.condition
  r.statement true
  if ← eatWord "else" then r.statement true else pure ()

/-- A loop with its condition behind it. -/
def doStatement (r : Rules) : Reader Unit := do
  advance
  r.statement true
  if !(← eatWord "while") then failure
  r.condition
  -- the semicolon behind the condition may be left out
  let _ ← eat ";"

/-- A loop over the members of an object or the items of a list, from the word before these on. -/
def forEachRest (r : Rules) : Reader Unit := do
  if ← eatWord "in" then
    let _ ← r.expression
  else
    advance
    let _ ← r.assignment
  expect ")"
  r.statement true

/-- A loop with a start, a condition and a step, from the end of the start on. -/
def forRest (r : Rules) (isAwait : Bool) : Reader Unit := do
  expect ";"
  if !(← isMark ";") then
    let _ ← r.expression
  expect ";"
  if !(← isMark ")") then
    let _ ← r.expression
  expect ")"
  -- only a loop over items can wait for them
  flawIf isAwait
  r.statement true

/-- Whether a declaration comes next in the head of a loop. -/
def startsHeadDeclaration : Reader Bool := do
  if (← isWord "var") || (← isWord "const") then return true
  else ahead do
    if !(← eatWord "let") then return false
    match ← peek with
    | .word text _ => return text != "in"
    | .mark m => return m == "[" || m == "\x7b"
    | _ => return false

/-- A loop with a head. -/
def forStatement (r : Rules) : Reader Unit := do
  advance
  let isAwait ← isWord "await"
  if isAwait then
    flawIf !(← mode).awaiting
    advance
  expect "("
  if ← isMark ";" then r.forRest isAwait
  else if ← startsHeadDeclaration then
    -- in the head `in` belongs to the loop
    under (fun m => { m with inOperator := false }) (r.declaration true)
    if (← isWord "in") || (← isWord "of") then r.forEachRest else r.forRest isAwait
  else
    let start ← under (fun m => { m with inOperator := false }) r.expression
    if (← isWord "in") || (← isWord "of") then
      -- an expression that is assigned to by the loop has to be a pattern, and its defaults are settled then
      match start.settled? false with
      | some n =>
        modify fun c => { c with unsettled := c.unsettled - n }
        r.forEachRest
      | none => failure
    else r.forRest isAwait

/-! ## Other statements -/

/-- A jump out of a loop or to its next round. -/
def jumpStatement : Reader Unit := do
  advance
  if !(← canEnd) then name
  endStatement

/-- A return. -/
def returnStatement (r : Rules) : Reader Unit := do
  flawIf !(← mode).returning
  advance
  if !(← canEnd) then
    let _ ← r.expression
  endStatement

/-- A throw, with its value in the same line. -/
def throwStatement (r : Rules) : Reader Unit := do
  advance
  flawIf (← newLine)
  let _ ← r.expression
  endStatement

/-- A trial with what follows it. -/
def tryStatement (r : Rules) : Reader Unit := do
  advance
  r.block
  let catches ← eatWord "catch"
  if catches then
    if ← eat "(" then
      let _ ← r.pattern
      expect ")"
    r.block
  let finishes ← eatWord "finally"
  if finishes then r.block
  -- a trial needs a handler or a finish
  flawIf (!catches && !finishes)

/-- A case of a switch. -/
def switchCase (r : Rules) : Reader (Option Unit) := do
  if (← isMark "\x7d") || (← peek) == .finish then return none
  if ← eatWord "case" then
    let _ ← r.expression
  else if !(← eatWord "default") then failure
  expect ":"
  iterate
    (fun _ => do
      if (← isMark "\x7d") || (← peek) == .finish || (← isWord "case") || (← isWord "default") then
        return none
      else
        r.statement false
        return some ())
    ()
  return some ()

/-- A switch. -/
def switchStatement (r : Rules) : Reader Unit := do
  advance
  r.condition
  expect "\x7b"
  iterate (fun _ => r.switchCase) ()
  expect "\x7d"

/-- A function as a statement. One that is asynchronous or a generator may not stand alone. -/
def functionStatement (r : Rules) (alone isAsync : Bool) : Reader Unit := do
  if isAsync then advance
  let isGenerator ← r.function isAsync true
  flawIf (alone && (isAsync || isGenerator))

/-- Whether the word `import` starts an expression. -/
def importsAtRunTime : Reader Bool := ahead do
  skip
  return (← isMark ".") || (← isMark "(")

/-- Whether the word `using` declares. -/
def usingDeclares : Reader Bool := ahead do
  skip
  return (← peek).isName && !(← newLine)

/-- A statement that starts with a word. -/
def wordStatement (r : Rules) (alone : Bool) (text : String) : Reader Unit := do
  match text with
  | "if" => r.ifStatement
  | "do" => r.doStatement
  | "while" | "with" =>
    advance
    r.condition
    r.statement true
  | "for" => r.forStatement
  | "continue" | "break" => jumpStatement
  | "switch" => r.switchStatement
  | "throw" => r.throwStatement
  | "try" => r.tryStatement
  | "debugger" =>
    advance
    endStatement
  | "class" =>
    flawIf alone
    r.classRest true
  | "const" =>
    flawIf alone
    r.declarationStatement
  | "var" => r.declarationStatement
  | "let" => r.letStatement alone
  | "return" => r.returnStatement
  | "function" => r.functionStatement alone false
  -- nothing is exported from inside a function
  | "export" => failure
  | "import" => if ← importsAtRunTime then r.expressionStatement else failure
  | "using" => if ← usingDeclares then r.declarationStatement else r.expressionStatement
  | "async" =>
    let startsFunction ← ahead do
      return (← eatWord "async") && (← isWord "function") && !(← newLine)
    if startsFunction then r.functionStatement alone true else r.expressionStatement
  | _ => r.expressionStatement

/-- A statement. -/
def statementRule (r : Rules) (alone : Bool) : Reader Unit := do
  match ← peek with
  | .word text _ => r.wordStatement alone text
  | .mark "\x7b" => r.block
  | .mark ";" => advance
  | .mark "@" =>
    r.decorators
    if ← isWord "class" then r.classRest true else failure
  | _ => r.expressionStatement

end Rules

end WidgetTemplates.Script.Grammar
