import WidgetTemplates.Script.Grammar.Rules

/-!
# Patterns and parameters

What binds names: patterns of arrays and objects, with defaults, and lists of parameters. A rest comes
last and has neither a default nor a comma after it.
-/

namespace WidgetTemplates.Script.Grammar

open Reader

/-- Whether of several items, of which each tells whether it is a rest, none but the last is one, and that
without a comma after it. -/
def restIsLast (rests : List Bool) (trailing : Bool) : Bool :=
  !rests.dropLast.contains true && !(trailing && rests.getLast? == some true)

namespace Rules

/-- The name of a property: a word, a literal, or an expression in brackets; the text of a word. -/
def propertyName (r : Rules) : Reader (Option String) := do
  match ← peek with
  | .word text _ =>
    skip
    return some text
  | .string | .number =>
    skip
    return none
  | .mark "[" =>
    skip
    let _ ← enclosed r.assignment
    expect "]"
    return none
  | _ => failure

/-- A default, if there is one. -/
def optionalDefault (r : Rules) : Reader Unit := do
  if ← eat "=" then
    let _ ← enclosed r.assignment
  else pure ()

/-- A pattern with its default. -/
def bindingItem (r : Rules) : Reader Unit := do
  let _ ← r.pattern
  r.optionalDefault

/-- The pattern after three points. -/
def bindingRest (r : Rules) (onlyName : Bool) : Reader Unit := do
  expect "..."
  let isName ← r.pattern
  flawIf (onlyName && !isName)
  flawIf (← isMark "=")
  r.optionalDefault

/-- An item of an array pattern; tells whether it is a rest. -/
def arrayPatternItem (r : Rules) : Reader Bool := do
  if ← isMark "," then return false
  else if ← isMark "..." then
    r.bindingRest false
    return true
  else
    r.bindingItem
    return false

/-- A member of an object pattern; tells whether it is a rest. -/
def objectPatternMember (r : Rules) : Reader Bool := do
  if ← isMark "..." then
    r.bindingRest true
    return true
  else
    let m ← mode
    let first ← peek
    let _ ← r.propertyName
    if first.isName && !(← isMark ":") then
      flawIf (first.isWord "await" && m.awaiting)
      flawIf (first.isWord "yield" && m.yielding)
      r.optionalDefault
    else
      expect ":"
      r.bindingItem
    return false

/-- A pattern; tells whether it is a single name. -/
def patternRule (r : Rules) : Reader Bool := do
  if ← eat "[" then
    let (rests, trailing) ← enclosed (items "]" r.arrayPatternItem)
    flawIf !(restIsLast rests trailing)
    expect "]"
    return false
  else if ← eat "\x7b" then
    let (rests, trailing) ← enclosed (items "\x7d" r.objectPatternMember)
    flawIf !(restIsLast rests trailing)
    expect "\x7d"
    return false
  else
    name
    return true

/-- Decorators, if there are any. -/
def decorators (r : Rules) : Reader Unit :=
  iterate
    (fun _ => do
      if ← eat "@" then
        let _ ← under (fun m => { m with decorating := true }) r.leftHand
        return some ()
      else return none)
    ()

/-- A parameter; tells whether it is a rest. -/
def parameter (r : Rules) : Reader Bool := do
  r.decorators
  if ← isMark "..." then
    r.bindingRest false
    return true
  else
    r.bindingItem
    return false

/-- Parameters in parentheses, each telling whether it is a rest. -/
def parameters (r : Rules) : Reader (List Bool) := do
  expect "("
  let (rests, trailing) ← items ")" r.parameter
  flawIf !(restIsLast rests trailing)
  expect ")"
  return rests

end Rules

end WidgetTemplates.Script.Grammar
