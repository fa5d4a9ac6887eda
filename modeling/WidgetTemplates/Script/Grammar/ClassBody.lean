import WidgetTemplates.Script.Grammar.Function

/-!
# Classes

The heritage and the members of a class: methods, accessors, fields, and blocks that run when the class is
made. A word such as `static` or `get` is a modifier where the name of a member may follow it, and the name
of a member itself elsewhere.
-/

namespace WidgetTemplates.Script.Grammar

open Reader

/-- Goes past a modifier. It has to be followed by something that a modifier can stand in front of, in the
same line if `sameLine` says so. -/
def modifier (word : String) (sameLine : Bool) : Reader Bool := do
  let follows ← ahead do
    if !(← eatWord word) then return false
    return (← peek).followsModifier && !(sameLine && (← newLine))
  if follows then eatWord word else return false

/-- An accessor, which reads or writes. -/
inductive Accessor where
  | getter
  | setter
deriving DecidableEq

/-- Goes past the word of an accessor. -/
def accessor? : Reader (Option Accessor) := do
  if ← modifier "get" false then return some .getter
  else if ← modifier "set" false then return some .setter
  else return none

/-- Whether an accessor may have these parameters, each of which tells whether it is a rest. -/
def Accessor.takes : Accessor → List Bool → Bool
  | .getter, rests => rests.isEmpty
  | .setter, rests => rests == [false]

/-- The modifiers of a member of a class; `hasAccessors` marks a field with accessors. -/
structure Modifiers where
  isStatic : Bool := false
  isAsync : Bool := false
  hasAccessors : Bool := false

/-- The modifiers that come next: `static` first, then one of the others. -/
def modifiers : Reader Modifiers := do
  let isStatic ← modifier "static" false
  if ← modifier "accessor" true then return { isStatic, hasAccessors := true }
  else return { isStatic, isAsync := ← modifier "async" true }

namespace Rules

/-- The name of a member of a class; the text of a word, with a number sign if it is private. -/
def memberName (r : Rules) : Reader (Option String) := do
  match ← peek with
  | .privateWord text =>
    skip
    return some ("#" ++ text)
  | _ => r.propertyName

/-- A field, after its name. -/
def field (r : Rules) : Reader Unit := do
  if ← eat "=" then
    let _ ← under
      (fun m => { m with inOperator := true, awaiting := false, yielding := false
                         decorating := false })
      r.assignment
  endStatement

/-- A block that runs when the class is made, from its word on. -/
def staticBlock (r : Rules) : Reader Unit := do
  advance
  under (fun m => { m with inOperator := true, awaiting := true, yielding := false
                           returning := false })
    r.block

/-- Whether a member may not have its name: a static member is not called `prototype`, a member called
`constructor` is a plain method, and no private member is called `#constructor`. -/
def misnamed (name : Option String) (isStatic isPlainMethod : Bool) : Bool :=
  name == some "#constructor" || (isStatic && name == some "prototype")
    || (!isStatic && !isPlainMethod && name == some "constructor")

/-- A method, accessor or field, with its modifiers. -/
def classMember (r : Rules) : Reader Unit := do
  let m ← modifiers
  let accessor ← accessor?
  let isGenerator ← eat "*"
  let name ← r.memberName
  if accessor.isSome || isGenerator || (← isMark "(") then
    flawIf m.hasAccessors
    flawIf (misnamed name m.isStatic (accessor.isNone && !isGenerator && !m.isAsync))
    let rests ← r.functionRest m.isAsync isGenerator
    flawIf (accessor.any fun a => m.isAsync || isGenerator || !a.takes rests)
  else
    flawIf m.isAsync
    flawIf (misnamed name m.isStatic false || name == some "constructor")
    r.field

/-- One member of a class. -/
def classElement (r : Rules) : Reader (Option Unit) := do
  if (← isMark "\x7d") || (← peek) == .finish then return none
  else if ← eat ";" then return some ()
  else
    r.decorators
    let startsBlock ← ahead do return (← eatWord "static") && (← isMark "\x7b")
    if startsBlock then r.staticBlock else r.classMember
    return some ()

/-- A class whose word `class` comes next. A declaration has a name. -/
def classRest (r : Rules) (isDeclaration : Bool) : Reader Unit := do
  advance
  if (← peek).isName then name else flawIf isDeclaration
  if ← eatWord "extends" then
    let _ ← r.leftHand
  expect "\x7b"
  iterate (fun _ => r.classElement) ()
  expect "\x7d"

end Rules

end WidgetTemplates.Script.Grammar
