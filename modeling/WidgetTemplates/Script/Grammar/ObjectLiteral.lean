import WidgetTemplates.Script.Grammar.ClassBody

/-!
# Objects and arrays

The literals of objects and arrays, which may turn out to be patterns. A member `a = 1` is counted as
unsettled until it does.
-/

namespace WidgetTemplates.Script.Grammar

open Reader

namespace Rules

/-- An expression after three points. -/
def spread (r : Rules) : Reader Shape := do
  expect "..."
  return .spread (← r.assignment)

/-- An item of an array. -/
def arrayItem (r : Rules) : Reader Shape := do
  if ← isMark "," then return .hole
  else if ← isMark "..." then r.spread
  else r.assignment

/-- An array. -/
def arrayLiteral (r : Rules) : Reader Shape := do
  expect "["
  let (shapes, trailing) ← enclosed (items "]" r.arrayItem)
  expect "]"
  return .array shapes trailing

/-- The default of a shorthand member, if there is one. -/
def shorthandDefault (r : Rules) : Reader Shape := do
  if ← eat "=" then
    let _ ← enclosed r.assignment
    -- a default is no value: it is settled when the object turns out to be a pattern
    modify fun c => { c with unsettled := c.unsettled + 1 }
    return .shorthand true
  else return .shorthand false

/-- A method of an object, after its name. -/
def objectMethod (r : Rules) (isAsync isGenerator : Bool) (accessor : Option Accessor) :
    Reader Shape := do
  let rests ← r.functionRest isAsync isGenerator
  flawIf (accessor.any fun a => isAsync || isGenerator || !a.takes rests)
  return .other

/-- A member of an object. -/
def objectMember (r : Rules) : Reader Shape := do
  if ← isMark "..." then r.spread
  else
    let isAsync ← modifier "async" true
    let accessor ← accessor?
    let isGenerator ← eat "*"
    let first ← peek
    -- a name may stand alone unless it is an operator here
    let m ← mode
    let canBeName := first.isName && !(first.isWord "await" && m.awaiting)
      && !(first.isWord "yield" && m.yielding)
    let _ ← r.propertyName
    if accessor.isSome || isGenerator || (← isMark "(") then
      r.objectMethod isAsync isGenerator accessor
    else
      -- `async` without a method is a fault of the text
      flawIf isAsync
      if canBeName && !(← isMark ":") then r.shorthandDefault
      else
        expect ":"
        r.assignment

/-- An object. -/
def objectLiteral (r : Rules) : Reader Shape := do
  expect "\x7b"
  let (shapes, trailing) ← enclosed (items "\x7d" r.objectMember)
  expect "\x7d"
  return .object shapes trailing

end Rules

end WidgetTemplates.Script.Grammar
