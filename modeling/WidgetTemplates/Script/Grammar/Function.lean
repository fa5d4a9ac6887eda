import WidgetTemplates.Script.Grammar.Binding

/-!
# Functions

Functions written with `function`, methods, and arrow functions. Where an arrow function starts like an
expression in parentheses it is decided by looking ahead (`arrowOutlook`), and in the last resort by a
trial: what reads as parameters with an arrow after them is an arrow function.
-/

namespace WidgetTemplates.Script.Grammar

open Reader

namespace Rules

/-- Statements up to a closing brace, which is left to be read. -/
def statements (r : Rules) : Reader Unit :=
  iterate
    (fun _ => do
      match ← peek with
      | .mark "\x7d" | .finish => return none
      | _ =>
        r.statement false
        return some ())
    ()

/-- Statements in braces. -/
def block (r : Rules) : Reader Unit := do
  expect "\x7b"
  r.statements
  expect "\x7d"

/-- The body of a function. -/
def functionBody (r : Rules) : Reader Unit :=
  under (fun m => { m with inOperator := true, returning := true }) r.block

/-- The parameters and the body of a function, each parameter telling whether it is a rest. -/
def functionRest (r : Rules) (isAsync isGenerator : Bool) : Reader (List Bool) :=
  under
    (fun m => { m with inOperator := true, awaiting := isAsync, yielding := isGenerator
                       decorating := false })
    do
      let rests ← r.parameters
      r.functionBody
      return rests

/-- A function whose word `function` comes next. Unless it is a declaration its name is its own. -/
def function (r : Rules) (isAsync isDeclaration : Bool) : Reader Bool := do
  advance
  let isGenerator ← eat "*"
  if (← peek).isName then
    if isDeclaration then name
    else under (fun m => { m with awaiting := isAsync, yielding := isGenerator }) name
  else flawIf isDeclaration
  let _ ← r.functionRest isAsync isGenerator
  return isGenerator

/-! ## Arrow functions -/

/-- The body of an arrow function: statements in braces, or an expression. -/
def arrowBody (r : Rules) (isAsync : Bool) : Reader Unit :=
  under (fun m => { m with awaiting := isAsync, yielding := false }) do
    if ← isMark "\x7b" then r.functionBody
    else
      let _ ← r.assignment

/-- An arrow function from its arrow on, which stands in the line of the parameters. -/
def fromArrow (r : Rules) (isAsync : Bool) : Reader Unit := do
  flawIf (← newLine)
  expect "=>"
  r.arrowBody isAsync

/-- What is known of an arrow function before its parameters are read. Where one is certain, anything else is a fault of
the text. -/
inductive Outlook where
  | never
  | certain
  | possible
deriving DecidableEq

/-- What the tokens after an opening parenthesis say. -/
def outlookInside : Reader Outlook := do
  match ← peek with
  | .mark ")" =>
    -- `()` is followed by the arrow, or by the body where the arrow is missing
    skip
    return if (← isMark "=>") || (← isMark "\x7b") then .certain else .never
  | .mark "[" | .mark "\x7b" => return .possible
  | .mark "..." =>
    skip
    match ← peek with
    | .number | .string => return .never
    | .word text _ =>
      if ["null", "true", "false"].contains text then return .never
      else return if reservedWords.contains text then .possible else .certain
    | _ => return .possible
  | token =>
    if !token.isName then return .never
    skip
    match ← peek with
    | .mark "," | .mark "=" | .mark ")" => return .possible
    | _ => return .never

/-- What the next tokens say, which are not read. -/
def arrowOutlook : Reader Outlook := fun mode c =>
  let look : Reader Outlook := do
    if ← eatWord "async" then
      -- a line break behind `async` makes it a name
      if ← newLine then return .never
    if ← eat "(" then outlookInside else return .never
  match look mode c with
  | some (outlook, _) => some (outlook, c)
  | none => some (.never, c)

/-- The parameters of an arrow function and the line end that must not follow them; tells whether the
function is an asynchronous one. The arrow comes next. -/
def arrowHead (r : Rules) : Reader Bool := do
  let isAsync ← eatWord "async"
  let _ ← under (fun m => { m with awaiting := m.awaiting || isAsync }) r.parameters
  if ← isMark "=>" then return isAsync else failure

/-- An arrow function with parameters in parentheses, if there is one. -/
def parenthesizedArrow (r : Rules) : Reader Bool := do
  match ← arrowOutlook with
  | .never => return false
  | .certain =>
    r.fromArrow (← r.arrowHead)
    return true
  -- only reading the parameters shows whether an arrow follows
  | .possible =>
    match ← attempt? r.arrowHead with
    | some isAsync =>
      r.fromArrow isAsync
      return true
    | none => return false

/-- Whether an asynchronous arrow function with a single name comes next. -/
def startsAsyncArrow (r : Rules) : Reader Bool := ahead do
  if !(← eatWord "async") || (← newLine) || (← isMark "=>") then return false
  let operand ← r.binary 0
  return operand.isName && (← isMark "=>") && !(← newLine)

/-- An asynchronous arrow function with a single name, if there is one. -/
def asyncArrow (r : Rules) : Reader Bool := do
  if ← r.startsAsyncArrow then
    advance
    let _ ← r.binary 0
    r.fromArrow true
    return true
  else return false

end Rules

end WidgetTemplates.Script.Grammar
