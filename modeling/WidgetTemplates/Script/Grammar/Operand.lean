import WidgetTemplates.Script.Grammar.ObjectLiteral

/-!
# Operands

Literals, names, and whatever stands in brackets, with the members and calls that follow.
-/

namespace WidgetTemplates.Script.Grammar

open Reader

namespace Rules

/-! ## Templates -/

/-- A chunk of a template that comes next. An escape that is not well formed is allowed in a tagged
template only. Tells whether a substitution follows. -/
def templateChunk (tagged : Bool) : Reader Bool := do
  match ← peek with
  | .template continues wellFormed =>
    flawIf (!wellFormed && !tagged)
    skip
    return continues
  | _ => failure

/-- A template. -/
def template (r : Rules) (tagged : Bool) : Reader Unit := do
  let continues ← templateChunk tagged
  let _ ← iterate
    (fun continues => do
      if continues then
        let _ ← enclosed r.expression
        resumeTemplate
        return some (← templateChunk tagged)
      else return none)
    continues

/-- Whether a template comes next. -/
def isTemplate : Reader Bool := do
  match ← peek with
  | .template _ _ => return true
  | _ => return false

/-! ## Calls -/

/-- An argument of a call. -/
def argument (r : Rules) : Reader Shape := do
  if ← isMark "..." then r.spread else r.assignment

/-- The arguments of a call. -/
def arguments (r : Rules) : Reader Unit := do
  expect "("
  let _ ← under (fun m => { m with inOperator := true, decorating := false }) (items ")" r.argument)
  expect ")"

/-- An import at run time, or the place of the module, from its word on. -/
def importOperand (r : Rules) : Reader Shape := do
  advance
  if ← eat "." then
    if ← eatWord "meta" then return .other
    else if !((← eatWord "source") || (← eatWord "defer")) then failure
  expect "("
  let _ ← enclosed r.assignment
  if (← eat ",") && !(← isMark ")") then
    let _ ← enclosed r.assignment
    let _ ← eat ","
  expect ")"
  return .importCall

/-- The name of a member after a point. -/
def pointMember : Reader Unit := do
  match ← peek with
  | .privateWord _ => skip
  | _ => anyWord

/-- A member whose name is computed. -/
def computedMember (r : Rules) : Reader Unit := do
  expect "["
  let _ ← enclosed r.expression
  expect "]"

/-- An operand with what has been read of its members and calls; `optional` tells whether one of them was reached
through `?.`. -/
structure Chain where
  shape : Shape
  optional : Bool := false

/-- One more member or tagged template, if there is one. -/
def memberStep (r : Rules) (chain : Chain) : Reader (Option Chain) := do
  if ← eat "." then
    pointMember
    return some { chain with shape := .member }
  -- in a decorator a bracket starts the member of the class
  else if (← isMark "[") && !(← mode).decorating then
    r.computedMember
    return some { chain with shape := .member }
  else if ← isTemplate then
    -- a template may not follow `?.`
    flawIf chain.optional
    r.template true
    return some { chain with shape := .other }
  else return none

/-- The member or call after `?.`. -/
def optionalStep (r : Rules) : Reader Chain := do
  expect "?."
  if ← isMark "(" then r.arguments
  else if ← isMark "[" then r.computedMember
  else pointMember
  return ⟨.other, true⟩

/-- One more member, call or tagged template, if there is one. -/
def callStep (r : Rules) (chain : Chain) : Reader (Option Chain) := do
  match ← r.memberStep chain with
  | some chain => return some chain
  | none =>
    if ← isMark "?." then return some (← r.optionalStep)
    else if ← isMark "(" then
      r.arguments
      return some { chain with shape := .other }
    else return none

/-- An operand with its members and calls. -/
def leftHandRule (r : Rules) : Reader Shape := do
  let chain ← iterate r.callStep { shape := ← r.primary }
  -- what is reached through `?.` cannot be assigned to
  return if chain.optional then .other else chain.shape

/-- A new object, from its word on. What is made is a member at most. -/
def newOperand (r : Rules) : Reader Shape := do
  advance
  if ← eat "." then
    -- `new.target`
    if ← eatWord "target" then return .other else failure
  let made ← iterate r.memberStep { shape := ← r.primary }
  -- `?.` may not follow what is made
  if ← isMark "?." then failure
  match made.shape with
  | .importCall => flaw
  | _ => pure ()
  if ← isMark "(" then r.arguments
  return .other

/-! ## Operands -/

/-- Expressions in parentheses. -/
def parenthesized (r : Rules) : Reader Shape := do
  expect "("
  let (shapes, trailing) ←
    under (fun m => { m with inOperator := true, decorating := false }) (items ")" r.assignment)
  -- a trailing comma is for parameters only
  if trailing then failure
  expect ")"
  match shapes with
  | [] => failure
  | [shape] => return .paren shape
  | _ => return .paren .other

/-- The word `super`, which is no operand by itself. -/
def superOperand : Reader Shape := do
  advance
  flawIf !((← isMark ".") || (← isMark "(") || (← isMark "["))
  return .other

/-- Whether an asynchronous function comes next. -/
def startsAsyncFunction : Reader Bool := ahead do
  return (← eatWord "async") && (← isWord "function") && !(← newLine)

/-- An operand that starts with a word. -/
def wordOperand (r : Rules) (text : String) : Reader Shape := do
  if ← startsAsyncFunction then
    advance
    let _ ← r.function true false
    return .other
  match text with
  | "function" =>
    let _ ← r.function false false
    return .other
  | "class" =>
    r.classRest false
    return .other
  | "new" => r.newOperand
  | "import" => r.importOperand
  | "super" => superOperand
  | "this" | "null" | "true" | "false" =>
    advance
    return .other
  | _ =>
    name
    return .name

/-- An operand. -/
def primaryRule (r : Rules) : Reader Shape := do
  match ← peek with
  | .word text _ => r.wordOperand text
  | .number | .string =>
    skip
    return .other
  | .template _ _ =>
    r.template false
    return .other
  | .mark "(" => r.parenthesized
  | .mark "[" => r.arrayLiteral
  | .mark "\x7b" => r.objectLiteral
  -- where an operand is expected, a slash starts a regular expression
  | .mark "/" | .mark "/=" =>
    regex
    return .other
  | .mark "@" =>
    r.decorators
    if ← isWord "class" then r.classRest false else failure
    return .other
  | _ => failure

end Rules

end WidgetTemplates.Script.Grammar
